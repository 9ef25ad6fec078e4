import UmojaFlowOS.Go.Strings

/-!
# Slash-separated paths of the Go standard library

`Clean`, `Join`, `Dir` and `IsAbs` of `path/filepath` on a Unix system. `Clean` reads a
path component by component and keeps a stack of those that remain; the stacks below
have their last component first.

The result the release gate rests on is `join_within`: a relative path that `Clean`
leaves alone and that does not begin with `..` can only be joined to names below the
directory.
-/

namespace UmojaFlowOS.Go

abbrev Component := List Char

def upward : Component := ['.', '.']

/-- A `..` read by `filepath.Clean`: it drops the component before it, if there is one to
drop, and is itself dropped at the root. -/
def stepUp (rooted : Bool) : List Component → List Component
  | [] => if rooted then [] else [upward]
  | top :: below => if top = upward then upward :: top :: below else below

/-- One component read by `filepath.Clean`. -/
def pushComponent (rooted : Bool) (stack : List Component) (part : Component) : List Component :=
  if part = [] ∨ part = ['.'] then stack
  else if part = upward then stepUp rooted stack
  else part :: stack

/-- The components of a path that `filepath.Clean` keeps. -/
def reduced (rooted : Bool) (path : List Char) : List Component :=
  (path.splitOn '/').foldl (pushComponent rooted) []

/-- The path of a stack; the empty relative path is `.`. -/
def written (rooted : Bool) (stack : List Component) : List Char :=
  if rooted then '/' :: ['/'].intercalate stack.reverse
  else if stack = [] then ['.'] else ['/'].intercalate stack.reverse

def hasPrefix (s start : String) : Bool := start.toList.isPrefixOf s.toList

def contains (s part : String) : Bool := s.toList.tails.any fun tail => part.toList.isPrefixOf tail

def isAbs (path : String) : Bool := path.toList.head? = some '/'

def clean (path : String) : String :=
  String.ofList (written (isAbs path) (reduced (isAbs path) path.toList))

/-- `filepath.Join` of two elements: empty elements are left out. -/
def join (first second : String) : String :=
  if first ≠ "" then clean (first ++ "/" ++ second)
  else if second ≠ "" then clean second else ""

/-- `filepath.Dir`: all but the last component. -/
def dir (path : String) : String :=
  clean (String.ofList (path.toList.reverse.dropWhile (· ≠ '/')).reverse)

example : clean "a//b/./../c" = "a/c" := by decide
example : join (dir "/evidence/release.json") "../../etc" = "/etc" := by decide

/-! ## The stacks `Clean` builds -/

/-- A component that is neither dropped nor holds a slash. -/
def Solid (part : Component) : Prop := part ≠ [] ∧ part ≠ ['.'] ∧ '/' ∉ part

/-- A component that names something in its directory. -/
def Ordinary (part : Component) : Prop := Solid part ∧ part ≠ upward

/-- A stack `Clean` can leave: `..` stands only at the front of a relative path. -/
def Settled (rooted : Bool) : List Component → Prop
  | [] => True
  | top :: below =>
    Solid top ∧ (top = upward → rooted = false ∧ ∀ part ∈ below, part = upward) ∧
      Settled rooted below

theorem solid_upward : Solid upward := by
  refine ⟨?_, ?_, ?_⟩ <;> decide

variable {rooted : Bool} {stack : List Component}

/-- A settled stack stays settled. -/
theorem settled_pushComponent (settled : Settled rooted stack) (slashless : '/' ∉ part) :
    Settled rooted (pushComponent rooted stack part) := by
  by_cases dropped : part = [] ∨ part = ['.']
  · rw [pushComponent, if_pos dropped]
    exact settled
  obtain ⟨full, dotless⟩ := not_or.mp dropped
  by_cases up : part = upward
  · rw [pushComponent, if_neg dropped, if_pos up]
    cases stack with
    | nil =>
      cases rooted with
      | true => trivial
      | false => exact ⟨solid_upward, fun _ => ⟨rfl, nofun⟩, trivial⟩
    | cons top below =>
      obtain ⟨solid, front, rest⟩ := settled
      show Settled rooted (if top = upward then upward :: top :: below else below)
      split_ifs with again
      · obtain ⟨relative, all⟩ := front again
        refine ⟨solid_upward, fun _ => ⟨relative, ?_⟩, solid, front, rest⟩
        intro other present
        rcases List.mem_cons.mp present with rfl | deeper
        · exact again
        · exact all other deeper
      · exact rest
  · rw [pushComponent, if_neg dropped, if_neg up]
    exact ⟨⟨full, dotless, slashless⟩, fun same => absurd same up, settled⟩

theorem notMem_of_mem_splitOn {path : List Char} : ∀ part ∈ path.splitOn '/', '/' ∉ part := by
  induction path with
  | nil =>
    intro part present
    rw [List.splitOn_nil, List.mem_singleton] at present
    subst present
    exact List.not_mem_nil
  | cons c path ih =>
    intro part present
    rw [List.splitOn_cons_eq_if_modifyHead] at present
    split_ifs at present with slash
    · rcases List.mem_cons.mp present with rfl | later
      · exact List.not_mem_nil
      · exact ih part later
    have other : '/' ≠ c := fun same => slash (beq_iff_eq.mpr same.symm)
    rcases shape : path.splitOn '/' with _ | ⟨first, parts⟩
    · exact absurd shape (List.splitOn_ne_nil _ _)
    rw [shape] at present ih
    rcases List.mem_cons.mp present with rfl | later
    · rw [List.mem_cons, not_or]
      exact ⟨other, ih first List.mem_cons_self⟩
    · exact ih part (by simp [later])

theorem settled_foldl {parts : List Component} (slashless : ∀ part ∈ parts, '/' ∉ part) :
    ∀ {stack : List Component}, Settled rooted stack →
      Settled rooted (parts.foldl (pushComponent rooted) stack) := by
  induction parts with
  | nil => exact id
  | cons part parts ih =>
    intro stack settled
    exact ih (fun other present => slashless other (by simp [present]))
      (settled_pushComponent settled (slashless part List.mem_cons_self))

theorem settled_reduced (rooted : Bool) (path : List Char) : Settled rooted (reduced rooted path) :=
  settled_foldl notMem_of_mem_splitOn trivial

/-! ## Reading a written stack back -/

theorem pushComponent_settled (settled : Settled rooted (top :: below)) :
    pushComponent rooted below top = top :: below := by
  obtain ⟨⟨full, dotless, -⟩, front, -⟩ := settled
  rw [pushComponent, if_neg (not_or.mpr ⟨full, dotless⟩)]
  split_ifs with up
  · obtain ⟨relative, all⟩ := front up
    subst up relative
    cases below with
    | nil => rfl
    | cons next below => exact if_pos (all next List.mem_cons_self)
  · rfl

theorem foldl_reverse_settled :
    ∀ {stack : List Component}, Settled rooted stack →
      stack.reverse.foldl (pushComponent rooted) [] = stack
  | [], _ => rfl
  | top :: below, settled => by
    rw [List.reverse_cons, List.foldl_append, foldl_reverse_settled settled.2.2]
    exact pushComponent_settled settled

theorem Settled.solid :
    ∀ {stack : List Component}, Settled rooted stack → ∀ part ∈ stack, Solid part
  | _ :: _, settled, part, present => by
    rcases List.mem_cons.mp present with rfl | deeper
    · exact settled.1
    · exact settled.2.2.solid part deeper

theorem splitOn_intercalate_reverse (settled : Settled rooted stack) (some_ : stack ≠ []) :
    (['/'].intercalate stack.reverse).splitOn '/' = stack.reverse := by
  refine List.splitOn_intercalate '/' ?_ ?_
  · intro part present
    exact (settled.solid part (List.mem_reverse.mp present)).2.2
  · exact fun empty => some_ (List.reverse_eq_nil_iff.mp empty)

theorem pushComponent_dot (rooted : Bool) (stack : List Component) :
    pushComponent rooted stack ['.'] = stack := if_pos (Or.inr rfl)

/-- `Clean` leaves the path of a settled stack alone. -/
theorem reduced_written
    (settled : Settled rooted stack) : reduced rooted (written rooted stack) = stack := by
  by_cases empty : stack = []
  · subst empty
    cases rooted <;> rfl
  have read : reduced rooted (['/'].intercalate stack.reverse) = stack := by
    rw [reduced, splitOn_intercalate_reverse settled empty, foldl_reverse_settled settled]
  cases rooted with
  | true =>
    rw [written, if_pos rfl, reduced, show '/' :: ['/'].intercalate stack.reverse =
      [] ++ '/' :: ['/'].intercalate stack.reverse from rfl, List.splitOn_append_cons_self,
      List.splitOn_nil, List.foldl_append]
    exact read
  | false =>
    rw [written, if_neg Bool.false_ne_true, if_neg empty]
    exact read

/-! ## Joining ordinary names -/

theorem foldl_ordinary {names : List Component} (ordinary : ∀ name ∈ names, Ordinary name) :
    ∀ stack : List Component,
      names.foldl (pushComponent rooted) stack = names.reverse ++ stack := by
  induction names with
  | nil => exact fun _ => rfl
  | cons name names ih =>
    intro stack
    obtain ⟨⟨full, dotless, -⟩, down⟩ := ordinary name List.mem_cons_self
    have pushed : pushComponent rooted stack name = name :: stack := by
      rw [pushComponent, if_neg (not_or.mpr ⟨full, dotless⟩), if_neg down]
    rw [List.foldl_cons, pushed,
      ih (fun other present => ordinary other (by simp [present])),
      List.reverse_cons, List.append_assoc]
    rfl

theorem Settled.append (settled : Settled rooted stack) :
    ∀ {names : List Component}, (∀ name ∈ names, Ordinary name) → Settled rooted (names ++ stack)
  | [], _ => settled
  | name :: names, ordinary => by
    obtain ⟨solid, down⟩ := ordinary name List.mem_cons_self
    exact ⟨solid, fun up => absurd up down,
      settled.append fun other present => ordinary other (by simp [present])⟩

theorem isAbs_ofList (path : List Char) :
    isAbs (String.ofList path) = decide (path.head? = some '/') := by
  rw [isAbs, String.toList_ofList]

theorem head_intercalate (full : first ≠ []) :
    (['/'].intercalate (first :: rest)).head? = first.head? := by
  cases first with
  | nil => exact absurd rfl full
  | cons c first =>
    cases rest with
    | nil | cons => simp

theorem isAbs_written (settled : Settled rooted stack) :
    isAbs (String.ofList (written rooted stack)) = rooted := by
  rw [isAbs_ofList]
  cases rooted with
  | true => rfl
  | false =>
    by_cases empty : stack = []
    · subst empty
      rfl
    have reversed : stack.reverse ≠ [] := fun none_ => empty (List.reverse_eq_nil_iff.mp none_)
    obtain ⟨first, rest, shape⟩ := List.exists_cons_of_ne_nil reversed
    have member : first ∈ stack := List.mem_reverse.mp (shape ▸ List.mem_cons_self)
    obtain ⟨full, -, slashless⟩ := settled.solid first member
    rw [written, if_neg Bool.false_ne_true, if_neg empty, shape, head_intercalate full]
    refine decide_eq_false fun slash => slashless ?_
    exact List.mem_of_mem_head? slash

theorem reduced_append (rooted : Bool) (front back : List Char) :
    reduced rooted (front ++ '/' :: back) =
      (back.splitOn '/').foldl (pushComponent rooted) (reduced rooted front) := by
  rw [reduced, List.splitOn_append_cons_self, List.foldl_append]
  rfl

theorem join_eq (first : String) (given : second ≠ "") (relative : isAbs second = false) :
    join first second = String.ofList (written (isAbs first)
      ((second.toList.splitOn '/').foldl (pushComponent (isAbs first))
        (reduced (isAbs first) first.toList))) := by
  by_cases empty : first = ""
  · subst empty
    rw [join, if_neg (not_not.mpr rfl), if_pos given, clean, relative]
    rfl
  have chars : (first ++ "/" ++ second).toList = first.toList ++ '/' :: second.toList := by
    rw [String.toList_append, String.toList_append, List.append_assoc]
    rfl
  have rooted : isAbs (first ++ "/" ++ second) = isAbs first := by
    have full : first.toList ≠ [] := fun none_ => empty (String.toList_eq_nil_iff.mp none_)
    obtain ⟨c, rest, shape⟩ := List.exists_cons_of_ne_nil full
    rw [isAbs, isAbs, chars, shape]
    rfl
  rw [join, if_pos empty, clean, rooted, chars, reduced_append]

/-- The path `file` is the path `directory` followed by ordinary names. -/
def Within (directory file : String) : Prop :=
  ∃ rooted stack names, Settled rooted stack ∧ (∀ name ∈ names, Ordinary name) ∧
    directory = String.ofList (written rooted stack) ∧
    file = String.ofList (written rooted (names ++ stack))

theorem Settled.front_of_upward :
    ∀ {stack : List Component}, Settled false stack → upward ∈ stack →
      ∃ rest, stack.reverse = upward :: rest
  | top :: below, ⟨_, front, settled⟩, present => by
    rcases List.mem_cons.mp present with rfl | deeper
    · have all := (front rfl).2
      rw [List.eq_replicate_of_mem all, ← List.replicate_succ, List.reverse_replicate]
      exact ⟨_, List.replicate_succ⟩
    · obtain ⟨rest, shape⟩ := settled.front_of_upward deeper
      exact ⟨rest ++ [top], by rw [List.reverse_cons, shape]; rfl⟩

theorem Settled.ordinary (settled : Settled false stack)
    (inside : ¬ upward <+: written false stack) : ∀ name ∈ stack, Ordinary name := by
  intro name present
  refine ⟨settled.solid name present, ?_⟩
  rintro rfl
  obtain ⟨rest, shape⟩ := settled.front_of_upward present
  have some_ : stack ≠ [] := List.ne_nil_of_mem present
  refine inside ?_
  rw [written, if_neg Bool.false_ne_true, if_neg some_, shape]
  cases rest with
  | nil | cons => simp

theorem foldl_splitOn_written {names : List Component}
    (ordinary : ∀ name ∈ names, Ordinary name) (stack : List Component) :
    ((written false names).splitOn '/').foldl (pushComponent rooted) stack = names ++ stack := by
  by_cases empty : names = []
  · subst empty
    exact pushComponent_dot rooted stack
  have settled : Settled false names := by
    have base : Settled false [] := trivial
    have whole := base.append ordinary
    rwa [List.append_nil] at whole
  rw [written, if_neg Bool.false_ne_true, if_neg empty,
    splitOn_intercalate_reverse settled empty,
    foldl_ordinary fun name present => ordinary name (List.mem_reverse.mp present),
    List.reverse_reverse]

theorem clean_ne_empty (path : String) : clean path ≠ "" := by
  intro empty
  have none_ := congrArg String.toList empty
  rw [clean, String.toList_ofList] at none_
  have read := reduced_written (settled_reduced (isAbs path) path.toList)
  rw [none_] at read
  rw [← read] at none_
  cases shape : isAbs path <;> rw [shape] at none_ <;> exact absurd none_ (by decide)

/-- A path that `Clean` leaves alone, that is relative and does not begin with `..` stays
within every directory it is joined to. -/
theorem join_within (path : String) (cleaned : clean artifact = artifact)
    (relative : isAbs artifact = false) (inside : hasPrefix artifact ".." = false) :
    Within (clean path) (join (clean path) (clean artifact)) := by
  have settled := settled_reduced (isAbs path) path.toList
  have small := settled_reduced false artifact.toList
  have shape : artifact = String.ofList (written false (reduced false artifact.toList)) := by
    rw [← relative]
    exact cleaned.symm
  have ordinary : ∀ name ∈ reduced false artifact.toList, Ordinary name := by
    refine small.ordinary fun leading => ?_
    rw [← String.toList_ofList (l := written false (reduced false artifact.toList)), ← shape] at leading
    exact Bool.false_ne_true (inside.symm.trans (List.isPrefixOf_iff_prefix.mpr leading))
  refine ⟨isAbs path, reduced (isAbs path) path.toList, reduced false artifact.toList, settled,
    ordinary, rfl, ?_⟩
  have rooted : isAbs (clean path) = isAbs path := isAbs_written settled
  have given : artifact ≠ "" := cleaned ▸ clean_ne_empty artifact
  rw [cleaned, join_eq _ given relative, rooted, clean, String.toList_ofList,
    reduced_written settled]
  congr 2
  conv_lhs => rw [shape, String.toList_ofList]
  exact foldl_splitOn_written ordinary _

theorem join_name (directory : String) (ordinary : Ordinary name.toList) :
    join directory name = String.ofList (written (isAbs directory)
      (name.toList :: reduced (isAbs directory) directory.toList)) := by
  obtain ⟨⟨full, dotless, slashless⟩, down⟩ := ordinary
  have given : name ≠ "" := fun none_ => full (String.toList_eq_nil_iff.mpr none_)
  have relative : isAbs name = false := by
    refine decide_eq_false fun slash => slashless ?_
    exact List.mem_of_mem_head? slash
  rw [join_eq directory given relative, List.splitOn_eq_singleton slashless, List.foldl_cons,
    List.foldl_nil, pushComponent, if_neg (not_or.mpr ⟨full, dotless⟩), if_neg down]

/-- Different names in a directory have different paths. -/
theorem join_injective (directory : String)
    (ordinary : Ordinary first.toList) (other : Ordinary second.toList)
    (same : join directory first = join directory second) : first = second := by
  have settled := settled_reduced (isAbs directory) directory.toList
  have read : ∀ name : Component, Ordinary name →
      reduced (isAbs directory) (written (isAbs directory)
        (name :: reduced (isAbs directory) directory.toList)) =
      name :: reduced (isAbs directory) directory.toList := by
    intro name fine
    exact reduced_written ⟨fine.1, fun up => absurd up fine.2, settled⟩
  rw [join_name directory ordinary, join_name directory other, String.ofList_inj] at same
  have components := (read _ ordinary).symm.trans (same ▸ read _ other)
  exact String.toList_inj.mp (List.cons.inj components).1

end UmojaFlowOS.Go
