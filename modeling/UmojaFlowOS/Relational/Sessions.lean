import Mathlib.Data.List.Nodup

/-!
# Open transactions

The transactions that are open at a database, by the number of the connection that
holds them: a connection has at most one.
-/

namespace UmojaFlowOS.Relational

structure Sessions (σ : Type) where
  entries : List (Nat × σ) := []
  unique : (entries.map Prod.fst).Nodup := by exact List.nodup_nil

namespace Sessions

variable {σ : Type} {s : Sessions σ} {i : Nat} {session : σ} {held : σ → Bool}

section
variable (s : Sessions σ)

def get (i : Nat) : Option σ :=
  (s.entries.find? fun entry => entry.1 = i).map Prod.snd

def close (i : Nat) : Sessions σ where
  entries := s.entries.filter fun entry => entry.1 ≠ i
  unique := s.unique.sublist (List.filter_sublist.map _)

def put (i : Nat) (session : σ) : Sessions σ where
  entries := (i, session) :: (s.close i).entries
  unique := by
    refine List.nodup_cons.mpr ⟨fun member => ?_, (s.close i).unique⟩
    obtain ⟨entry, kept, same⟩ := List.mem_map.mp member
    have other := (List.mem_filter.mp kept).2
    simp [same] at other

/-- The transaction of `i`, unless it has failed. -/
def live (failed : σ → Bool) (i : Nat) : Option σ :=
  (s.get i).filter fun session => !failed session

/-- A statement of `i` fails: its transaction, if it has one, is what `abort` leaves of it. -/
def spoil (abort : σ → σ) (i : Nat) : Sessions σ :=
  match s.get i with
  | some session => s.put i (abort session)
  | none => s

/-- Some transaction of another connection than `i` satisfies `held`. -/
def elsewhere (i : Nat) (held : σ → Bool) : Bool :=
  s.entries.any fun entry => entry.1 ≠ i && held entry.2

/-- Some transaction satisfies `held`. -/
def anywhere (held : σ → Bool) : Bool := s.entries.any fun entry => held entry.2

end

theorem get_eq_some_iff : s.get i = some session ↔ (i, session) ∈ s.entries := by
  constructor
  · intro found
    obtain ⟨⟨j, other⟩, first, rfl⟩ := Option.map_eq_some_iff.mp found
    have same : j = i := by simpa using List.find?_some first
    subst same
    exact List.mem_of_find?_eq_some first
  intro member
  rcases first : s.entries.find? fun entry => entry.1 = i with _ | other
  · exact absurd (List.find?_eq_none.mp first _ member) (by simp)
  have same : other.1 = i := by simpa using List.find?_some first
  have equal := List.inj_on_of_nodup_map s.unique (List.mem_of_find?_eq_some first) member same
  rw [get, first, equal, Option.map_some]

@[simp] theorem get_close_self : (s.close i).get i = none := by
  cases found : (s.close i).get i with
  | none => rfl
  | some session =>
    have kept := (List.mem_filter.mp (get_eq_some_iff.mp found)).2
    simp at kept

theorem get_close_of_ne (other : j ≠ i) : (s.close i).get j = s.get j := by
  refine Option.ext fun session => ?_
  rw [get_eq_some_iff, get_eq_some_iff, close, List.mem_filter]
  simp [other]

@[simp] theorem get_put_self : (s.put i session).get i = some session :=
  get_eq_some_iff.mpr (List.mem_cons_self ..)

theorem get_put_of_ne (other : j ≠ i) : (s.put i session).get j = s.get j := by
  rw [← get_close_of_ne (s := s) other]
  refine Option.ext fun session => ?_
  rw [get_eq_some_iff, get_eq_some_iff, put, List.mem_cons]
  simp [other]

theorem get_of_get_close (found : (s.close i).get j = some session) :
    j ≠ i ∧ s.get j = some session := by
  by_cases same : j = i
  · subst same
    rw [get_close_self] at found
    cases found
  · rw [get_close_of_ne same] at found
    exact ⟨same, found⟩

theorem get_put_cases (present : (s.put i session).get j = some found) :
    j = i ∧ found = session ∨ j ≠ i ∧ s.get j = some found := by
  by_cases same : j = i
  · subst same
    rw [get_put_self] at present
    exact .inl ⟨rfl, (Option.some.inj present).symm⟩
  · rw [get_put_of_ne same] at present
    exact .inr ⟨same, present⟩

section
variable {failed : σ → Bool} {abort : σ → σ}

theorem live_eq_some_iff :
    s.live failed i = some session ↔ s.get i = some session ∧ failed session = false := by
  rw [live, Option.filter_eq_some_iff]
  simp

theorem get_of_live (open_ : s.live failed i = some session) : s.get i = some session :=
  (live_eq_some_iff.mp open_).1

theorem live_congr {later : Sessions σ} (same : later.get i = s.get i) : later.live failed i = s.live failed i := by
  rw [live, same, live]

theorem live_put_self (sound : failed session = false) :
    (s.put i session).live failed i = some session :=
  live_eq_some_iff.mpr ⟨get_put_self, sound⟩

theorem get_spoil_of_ne (other : j ≠ i) : (s.spoil abort i).get j = s.get j := by
  unfold spoil
  split
  · exact get_put_of_ne other
  · rfl

theorem live_spoil_self (fails : ∀ session, failed (abort session) = true) :
    (s.spoil abort i).live failed i = none := by
  unfold spoil
  split
  · rw [live, get_put_self, Option.filter_some, fails]
    rfl
  · rename_i closed
    rw [live, closed]
    rfl

end

theorem elsewhere_eq_false :
    s.elsewhere i held = false ↔ ∀ j session, s.get j = some session → j ≠ i → held session = false := by
  rw [elsewhere, List.any_eq_false]
  constructor
  · intro none_ j session found other
    have nothing := none_ _ (get_eq_some_iff.mp found)
    simpa [other] using nothing
  rintro none_ ⟨j, session⟩ member
  have nothing := none_ j session (get_eq_some_iff.mpr member)
  by_cases other : j = i
  · simp [other]
  · simp [other, nothing other]

theorem elsewhere_put_self : (s.put i session).elsewhere i held = s.elsewhere i held := by
  rw [Bool.eq_iff_iff, ← not_iff_not]
  simp only [Bool.not_eq_true, elsewhere_eq_false]
  refine forall₂_congr fun j other => ?_
  by_cases same : j = i
  · simp [same]
  · rw [get_put_of_ne same]

theorem anywhere_eq_false :
    s.anywhere held = false ↔ ∀ j session, s.get j = some session → held session = false := by
  rw [anywhere, List.any_eq_false]
  constructor
  · intro none_ j session found
    simpa using none_ _ (get_eq_some_iff.mp found)
  · rintro none_ ⟨j, session⟩ member
    simpa using none_ j session (get_eq_some_iff.mpr member)

/-! ## Locks -/

/-- No two transactions hold one key. -/
def Apart {κ : Type} (holds : κ → σ → Bool) (s : Sessions σ) : Prop :=
  ∀ j k first second, s.get j = some first → s.get k = some second → j ≠ k →
    ∀ key, holds key first = true → holds key second = false

section
variable {κ : Type} {holds : κ → σ → Bool}

theorem apart_empty : Apart holds ({} : Sessions σ) := fun _ _ _ _ left => nomatch left

section
variable (apart : Apart holds s)
include apart

theorem Apart.close (i : Nat) : Apart holds (s.close i) := by
  intro j k first second left right
  exact apart j k first second (get_of_get_close left).2 (get_of_get_close right).2

theorem Apart.put (alone : ∀ j other, s.get j = some other → j ≠ i → ∀ key,
      holds key session = true → holds key other = false) : Apart holds (s.put i session) := by
  intro j k first second left right different key held
  rcases get_put_cases left with ⟨rfl, rfl⟩ | ⟨-, before⟩
  · rcases get_put_cases right with ⟨rfl, rfl⟩ | ⟨other, right⟩
    · exact absurd rfl different
    · exact alone k second right other key held
  rcases get_put_cases right with ⟨rfl, rfl⟩ | ⟨-, right⟩
  · cases mine : holds key second with
    | false => rfl
    | true => cases (alone j first before different key mine).symm.trans held
  · exact apart j k first second before right different key held

theorem Apart.update (present : s.get i = some found)
    (same : ∀ key, holds key session = true → holds key found = true) :
    Apart holds (s.put i session) :=
  apart.put fun j other listed different key held =>
    apart i j found other present listed different.symm key (same key held)

theorem Apart.spoil {abort : σ → σ} (i : Nat)
    (same : ∀ session key, holds key (abort session) = true → holds key session = true) :
    Apart holds (s.spoil abort i) := by
  unfold Sessions.spoil
  split
  · rename_i found present
    exact apart.update present (same found)
  · exact apart

theorem Apart.extend (present : s.get i = some found) (free : s.elsewhere i (holds key) = false)
    (same : ∀ other, holds other session = true → other = key ∨ holds other found = true) :
    Apart holds (s.put i session) := by
  refine apart.put fun j other listed different held holding => ?_
  rcases same held holding with rfl | before
  · exact elsewhere_eq_false.mp free j other listed different
  · exact apart i j found other present listed different.symm held before

end

end

end Sessions

end UmojaFlowOS.Relational
