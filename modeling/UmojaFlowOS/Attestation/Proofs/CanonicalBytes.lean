import UmojaFlowOS.Attestation.PythonVerifier
import Mathlib.Data.List.Basic

/-!
# The two canonical forms of a manifest

Both serialisers write the same tokens in the same order and differ only in how they write
a string. The length of the text then tells whether every string was written alike, and
`canonical_bytes_agree_iff` says for which manifests it was.
-/

namespace UmojaFlowOS.Attestation

open Go

variable {σ τ υ : Type}

/-! ## Writing is writing tokens -/

theorem flatMap_intercalate (h : τ → List υ) (separator : List τ) (parts : List (List τ)) :
    (separator.intercalate parts).flatMap h =
      (separator.flatMap h).intercalate (parts.map fun part => part.flatMap h) := by
  induction parts with
  | nil => simp
  | cons part parts ih =>
    cases parts with
    | nil => simp
    | cons next parts =>
      rw [List.intercalate_cons_cons, List.flatMap_append, List.flatMap_append, ih,
        List.map_cons (l := next :: parts), List.map_cons, List.intercalate_cons_cons]

theorem insertMember_map (g : List τ → List υ) (member : String × List τ)
    (members : List (String × List τ)) :
    insertMember (member.1, g member.2) (members.map fun m => (m.1, g m.2)) =
      (insertMember member members).map fun m => (m.1, g m.2) := by
  induction members with
  | nil => rfl
  | cons first rest ih =>
    rw [List.map_cons, insertMember, insertMember]
    split_ifs
    · rfl
    · rw [ih, List.map_cons]

theorem sortMembers_map (g : List τ → List υ) (members : List (String × List τ)) :
    sortMembers (members.map fun m => (m.1, g m.2)) =
      (sortMembers members).map fun m => (m.1, g m.2) := by
  have loop : ∀ (members sorted : List (String × List τ)),
      (members.map fun m => (m.1, g m.2)).foldl (fun sorted member => insertMember member sorted)
        (sorted.map fun m => (m.1, g m.2)) =
      (members.foldl (fun sorted member => insertMember member sorted) sorted).map
        fun m => (m.1, g m.2) := by
    intro members
    induction members with
    | nil => exact fun _ => rfl
    | cons member members ih =>
      intro sorted
      rw [List.map_cons, List.foldl_cons, List.foldl_cons, insertMember_map, ih]
  exact loop members []

/-- Putting `h` in the place of what one serialiser writes gives what another writes. -/
structure Replaces (w : JsonWriter σ τ) (w' : JsonWriter σ υ) (h : τ → List υ) : Prop where
  char : ∀ c, h (w.char c) = [w'.char c]
  key : ∀ k, (w.key k).flatMap h = w'.key k
  string : ∀ s, (w.string s).flatMap h = w'.string s

mutual

variable {w' : JsonWriter σ υ} {w : JsonWriter σ τ}

/-- The replacement carries over from strings to whole values. -/
theorem Replaces.write (replaces : Replaces w w' h) :
    ∀ value : Json σ, (value.write w).flatMap h = value.write w'
  | .str text => replaces.string text
  | .arr items => by
    have parts := replaces.writeItems items
    rw [Json.write, Json.write, List.flatMap_cons, List.flatMap_append, flatMap_intercalate, parts]
    simp [replaces.char]
  | .obj members => by
    have parts := replaces.writeMembers members
    rw [Json.write, Json.write, List.flatMap_cons, List.flatMap_append, flatMap_intercalate, ← parts,
      sortMembers_map, List.map_map, List.map_map]
    simp [replaces.char, replaces.key, Function.comp_def]

theorem Replaces.writeItems (replaces : Replaces w w' h) : ∀ items : List (Json σ),
    (Attestation.writeItems w items).map (fun part => part.flatMap h) = Attestation.writeItems w' items
  | [] => rfl
  | item :: items => by
    rw [Attestation.writeItems, Attestation.writeItems, List.map_cons, replaces.write item,
      replaces.writeItems items]

theorem Replaces.writeMembers (replaces : Replaces w w' h) : ∀ members : List (String × Json σ),
    (Attestation.writeMembers w members).map (fun m => (m.1, m.2.flatMap h)) =
      Attestation.writeMembers w' members
  | [] => rfl
  | (key, value) :: members => by
    rw [Attestation.writeMembers, Attestation.writeMembers, List.map_cons, replaces.write value,
      replaces.writeMembers members]

end

inductive Token (σ : Type) where
  | char (c : Char)
  | key (k : String)
  | text (s : σ)

def tokenWriter : JsonWriter σ (Token σ) where
  char := .char
  key := fun k => [.key k]
  string := fun s => [.text s]

section
variable (w : JsonWriter σ τ)

def JsonWriter.token : Token σ → List τ
  | .char c => [w.char c]
  | .key k => w.key k
  | .text s => w.string s

theorem write_eq_tokens (value : Json σ) :
    value.write w = (value.write tokenWriter).flatMap w.token := by
  have replaces : Replaces tokenWriter w w.token :=
    ⟨fun _ => rfl, fun _ => List.append_nil _, fun _ => List.append_nil _⟩
  exact (replaces.write value).symm

/-! ## The strings among the tokens -/

theorem mem_insertMember :
    x ∈ insertMember member members ↔ x = member ∨ x ∈ members := by
  induction members with
  | nil => simp [insertMember]
  | cons first rest ih =>
    rw [insertMember]
    split_ifs
    · exact List.mem_cons
    · rw [List.mem_cons, ih, List.mem_cons]
      exact or_left_comm

theorem mem_sortMembers {x : String × List τ} : x ∈ sortMembers members ↔ x ∈ members := by
  have loop : ∀ (members sorted : List (String × List τ)),
      x ∈ members.foldl (fun sorted member => insertMember member sorted) sorted ↔
        x ∈ members ∨ x ∈ sorted := by
    intro members
    induction members with
    | nil => simp
    | cons member members ih =>
      intro sorted
      rw [List.foldl_cons, ih, mem_insertMember, List.mem_cons, or_left_comm, or_assoc]
  exact (loop members []).trans (or_iff_left List.not_mem_nil)

theorem mem_intercalate_of_notMem {separator : List τ} (other : x ∉ separator) :
    x ∈ separator.intercalate parts ↔ ∃ part ∈ parts, x ∈ part := by
  induction parts with
  | nil => simp
  | cons part parts ih =>
    cases parts with
    | nil => simp
    | cons next parts =>
      rw [List.intercalate_cons_cons, List.mem_append, List.mem_append, ih]
      simp [other]

theorem writeItems_eq_map (items : List (Json σ)) :
    writeItems w items = items.map (Json.write w) := by
  induction items with
  | nil => rfl
  | cons item items ih => rw [writeItems, ih, List.map_cons]

theorem writeMembers_eq_map (members : List (String × Json σ)) :
    writeMembers w members = members.map fun member => (member.1, member.2.write w) := by
  induction members with
  | nil => rfl
  | cons member members ih => rw [writeMembers, ih, List.map_cons]

end

theorem text_mem_str : Token.text s ∈ (Json.str text).write tokenWriter ↔ s = text := by
  simp [Json.write, tokenWriter]

theorem text_mem_arr {items : List (Json σ)} :
    Token.text s ∈ (Json.arr items).write tokenWriter ↔
      ∃ item ∈ items, Token.text s ∈ item.write tokenWriter := by
  have comma : Token.text s ∉ [tokenWriter.char ','] := by simp [tokenWriter]
  rw [Json.write, List.mem_cons, List.mem_append, mem_intercalate_of_notMem comma, writeItems_eq_map]
  simp [tokenWriter]

theorem text_mem_obj {members : List (String × Json σ)} :
    Token.text s ∈ (Json.obj members).write tokenWriter ↔
      ∃ member ∈ members, Token.text s ∈ member.2.write tokenWriter := by
  have comma : Token.text s ∉ [tokenWriter.char ','] := by simp [tokenWriter]
  rw [Json.write, List.mem_cons, List.mem_append, mem_intercalate_of_notMem comma]
  simp [tokenWriter, mem_sortMembers, writeMembers_eq_map]

theorem text_mem_tree {manifest : ReleaseManifest σ} :
    Token.text s ∈ manifest.tree.write tokenWriter ↔ s ∈ manifest.strings := by
  simp [ReleaseManifest.tree, ReleaseArtifact.tree, ReleaseApproval.tree, ReleaseWorm.tree,
    ReleaseReconciliation.tree, text_mem_obj, text_mem_arr, text_mem_str, ReleaseManifest.strings,
    or_assoc]

def JsonWriter.comap (f : σ → υ) (w : JsonWriter υ τ) : JsonWriter σ τ where
  char := w.char
  key := w.key
  string := fun s => w.string (f s)

theorem write_map (f : σ → υ) (w : JsonWriter υ τ) (manifest : ReleaseManifest σ) :
    (manifest.map f).tree.write w = manifest.tree.write (w.comap f) := by
  simp only [ReleaseManifest.tree, ReleaseManifest.map, Json.write, writeMembers, writeItems_eq_map,
    List.map_map]
  rfl

/-! ## How the two write a string -/

/-- A code point both serialisers write alike. -/
def PlainPoint : CodePoint → Prop
  | .scalar c => c ≠ '<' ∧ c ≠ '>' ∧ c ≠ '&' ∧ c.toNat ≠ 0x2028 ∧ c.toNat ≠ 0x2029
  | .lone _ => False

instance : DecidablePred PlainPoint
  | .scalar c => inferInstanceAs (Decidable (c ≠ '<' ∧ c ≠ '>' ∧ c ≠ '&' ∧ c.toNat ≠ 0x2028 ∧
      c.toNat ≠ 0x2029))
  | .lone _ => inferInstanceAs (Decidable False)

/-- Go writes a character as Python does, or as an escape of six characters where Python
writes the character. -/
theorem jsonRune_cases (c : Char) :
    (PlainPoint (.scalar c) ∧ jsonRune c = pythonEscape c) ∨
      (¬ PlainPoint (.scalar c) ∧ (jsonRune c).length = 6 ∧ pythonEscape c = [c]) := by
  by_cases plain : PlainPoint (.scalar c)
  · obtain ⟨less, greater, ampersand, line, paragraph⟩ := plain
    refine Or.inl ⟨⟨less, greater, ampersand, line, paragraph⟩, ?_⟩
    simp [jsonRune, goCoded, pythonEscape, escapeRune, less, greater, ampersand, line, paragraph]
  refine Or.inr ⟨plain, ?_⟩
  have listed : c = '<' ∨ c = '>' ∨ c = '&' ∨ c = '\u2028' ∨ c = '\u2029' := by
    by_contra other
    simp only [not_or] at other
    obtain ⟨less, greater, ampersand, line, paragraph⟩ := other
    exact plain ⟨less, greater, ampersand, fun code => line (Char.toNat_inj.mp code),
      fun code => paragraph (Char.toNat_inj.mp code)⟩
  rcases listed with rfl | rfl | rfl | rfl | rfl <;> decide

def goRune : CodePoint → List Char
  | .scalar c => jsonRune c
  | .lone _ => jsonRune '�'

theorem goRune_cases (p : CodePoint) :
    (PlainPoint p ∧ (goRune p).map .scalar = pythonRune p) ∨ (∃ half, p = .lone half) ∨
      (¬ PlainPoint p ∧ (pythonRune p).length < (goRune p).length) := by
  cases p with
  | lone half => exact Or.inr (Or.inl ⟨half, rfl⟩)
  | scalar c =>
    rcases jsonRune_cases c with ⟨plain, same⟩ | ⟨special, six, one⟩
    · exact Or.inl ⟨plain, by rw [goRune, same]; rfl⟩
    refine Or.inr (Or.inr ⟨special, ?_⟩)
    rw [goRune, six, pythonRune, one, List.length_map, List.length_singleton]
    decide

theorem length_pythonRune_le (p : CodePoint) : (pythonRune p).length ≤ (goRune p).length := by
  rcases goRune_cases p with ⟨-, same⟩ | ⟨half, rfl⟩ | ⟨-, shorter⟩
  · rw [← same, List.length_map]
  · show 1 ≤ (jsonRune '�').length
    decide
  · exact le_of_lt shorter

/-! ## Lengths -/

section
variable {α β γ : Type} {first : α → List β} {second : α → List γ} {l : List α}
  (le : ∀ x ∈ l, (first x).length ≤ (second x).length)
include le

theorem length_flatMap_le :
    (l.flatMap first).length ≤ (l.flatMap second).length := by
  induction l with
  | nil => exact le_refl _
  | cons x l ih =>
    have rest := ih fun y member => le y (by simp [member])
    have head := le x List.mem_cons_self
    rw [List.flatMap_cons, List.flatMap_cons, List.length_append, List.length_append]
    omega

theorem length_eq_of_flatMap (same : (l.flatMap first).length = (l.flatMap second).length) :
    ∀ x ∈ l, (first x).length = (second x).length := by
  induction l with
  | nil => exact nofun
  | cons x l ih =>
    have later : ∀ y ∈ l, (first y).length ≤ (second y).length := fun y member =>
      le y (by simp [member])
    have rest := length_flatMap_le later
    have head := le x List.mem_cons_self
    rw [List.flatMap_cons, List.flatMap_cons, List.length_append, List.length_append] at same
    intro y member
    rcases List.mem_cons.mp member with rfl | deeper
    · omega
    · exact ih later (by omega) y deeper

end

/-! ## The two serialisers on a manifest -/

def goPoints : JsonWriter PyString CodePoint where
  char := .scalar
  key := fun key => (quoted key.toList).map .scalar
  string := fun text => (quoted (goString text).toList).map .scalar

theorem goPoints_string (text : PyString) :
    goPoints.string text =
      .scalar '"' :: (text.flatMap (fun p => (goRune p).map .scalar) ++ [.scalar '"']) := by
  have runes : (goString text).toList.flatMap jsonRune = text.flatMap goRune := by
    rw [goString, String.toList_ofList, List.flatMap_map]
    refine List.flatMap_congr fun p _ => ?_
    cases p <;> rfl
  show (quoted (goString text).toList).map CodePoint.scalar = _
  rw [quoted, runes, List.map_cons, List.map_append, List.map_flatMap]
  rfl

theorem write_goPoints (manifest : ReleaseManifest PyString) :
    ((manifest.map goString).tree.write goWriter).map .scalar = manifest.tree.write goPoints := by
  have replaces : Replaces (goWriter.comap goString) goPoints fun c => [CodePoint.scalar c] :=
    ⟨fun _ => rfl, fun _ => List.map_eq_flatMap.symm, fun _ => List.map_eq_flatMap.symm⟩
  rw [write_map, ← replaces.write, List.map_eq_flatMap]

variable {text : PyString}

theorem string_eq_of_plain (plain : ∀ p ∈ text, PlainPoint p) :
    goPoints.string text = pythonWriter.string text := by
  have runes : text.flatMap (fun p => (goRune p).map CodePoint.scalar) = text.flatMap pythonRune := by
    refine List.flatMap_congr fun p member => ?_
    rcases goRune_cases p with ⟨-, same⟩ | ⟨half, rfl⟩ | ⟨special, -⟩
    · exact same
    · exact absurd (plain _ member) id
    · exact absurd (plain p member) special
  rw [goPoints_string, runes]
  rfl

theorem length_runes_le (p : CodePoint) :
    (pythonRune p).length ≤ ((goRune p).map CodePoint.scalar).length := by
  rw [List.length_map]
  exact length_pythonRune_le p

theorem length_pythonQuoted (text : PyString) :
    (pythonQuoted text).length = (text.flatMap pythonRune).length + 2 := by
  simp [pythonQuoted]

theorem length_goPoints_string (text : PyString) :
    (goPoints.string text).length =
      (text.flatMap fun p => (goRune p).map CodePoint.scalar).length + 2 := by
  simp [goPoints_string]

theorem length_string_le (text : PyString) :
    (pythonQuoted text).length ≤ (goPoints.string text).length := by
  rw [length_pythonQuoted, length_goPoints_string]
  exact Nat.add_le_add_right (length_flatMap_le fun p _ => length_runes_le p) 2

/-- A string that is as long in both has no code point that Go escapes and Python does not. -/
theorem plain_of_length_eq (same : (pythonQuoted text).length = (goPoints.string text).length) :
    ∀ p ∈ text, (∃ half, p = .lone half) ∨ PlainPoint p := by
  rw [length_pythonQuoted, length_goPoints_string] at same
  have runes := length_eq_of_flatMap (fun p _ => length_runes_le p) (Nat.add_right_cancel same)
  intro p member
  rcases goRune_cases p with ⟨plain, -⟩ | alone | ⟨-, shorter⟩
  · exact Or.inr plain
  · exact Or.inl alone
  have equal := runes p member
  rw [List.length_map] at equal
  omega

/-! ## Keys -/

theorem key_mem_arr {items : List (Json σ)} :
    Token.key k ∈ (Json.arr items).write tokenWriter ↔
      ∃ item ∈ items, Token.key k ∈ item.write tokenWriter := by
  have comma : (Token.key k : Token σ) ∉ [tokenWriter.char ','] := by simp [tokenWriter]
  rw [Json.write, List.mem_cons, List.mem_append, mem_intercalate_of_notMem comma, writeItems_eq_map]
  simp [tokenWriter]

theorem key_mem_obj {members : List (String × Json σ)} :
    Token.key k ∈ (Json.obj members).write tokenWriter ↔
      ∃ member ∈ members, k = member.1 ∨ Token.key k ∈ member.2.write tokenWriter := by
  have comma : (Token.key k : Token σ) ∉ [tokenWriter.char ','] := by simp [tokenWriter]
  rw [Json.write, List.mem_cons, List.mem_append, mem_intercalate_of_notMem comma]
  simp [tokenWriter, mem_sortMembers, writeMembers_eq_map]

def manifestKeys : List String :=
  ["release_sha", "environment", "created_at", "artifacts", "approvals", "worm", "reconciliation",
    "evidence_id", "path", "sha256", "run_id", "role", "subject", "approved_at", "bucket",
    "object_key_prefix", "object_lock_mode", "retain_until"]

theorem key_mem_tree {manifest : ReleaseManifest σ}
    (present : Token.key k ∈ manifest.tree.write tokenWriter) : k ∈ manifestKeys := by
  have str : ∀ text : σ, Token.key k ∉ (Json.str text).write tokenWriter := by
    intro text
    simp [Json.write, tokenWriter]
  simp only [ReleaseManifest.tree, ReleaseArtifact.tree, ReleaseApproval.tree, ReleaseWorm.tree,
    ReleaseReconciliation.tree, key_mem_obj, key_mem_arr, str, List.mem_cons, List.not_mem_nil, or_false,
    exists_eq_or_imp, exists_eq_left, List.mem_map, exists_exists_and_eq_and] at present
  simp only [manifestKeys, List.mem_cons, List.not_mem_nil, or_false]
  grind

theorem keys_eq : ∀ k ∈ manifestKeys, goPoints.key k = pythonWriter.key k := by
  decide

theorem length_token_le (token : Token PyString) :
    (pythonWriter.token token).length ≤ (goPoints.token token).length := by
  cases token with
  | char c => exact le_refl _
  | key k =>
    have decoded : goString (pyString k) = k := by
      rw [goString, pyString, List.map_map]
      exact (congrArg String.ofList (List.map_id _)).trans String.ofList_toList
    have whole := length_string_le (pyString k)
    rwa [show goPoints.string (pyString k) = goPoints.key k by
      show (quoted (goString (pyString k)).toList).map CodePoint.scalar = _
      rw [decoded]
      rfl] at whole
  | text s => exact length_string_le s

theorem lone_mem_pythonQuoted
    (member : CodePoint.lone half ∈ text) : CodePoint.lone half ∈ pythonQuoted text := by
  refine List.mem_cons_of_mem _ (List.mem_append_left _ ?_)
  exact List.mem_flatMap.mpr ⟨_, member, List.mem_singleton_self _⟩

/-! ## When the canonical bytes agree -/

theorem encodeUtf8_eq_some :
    encodeUtf8 text = some chars ↔ text = chars.map .scalar := by
  induction text generalizing chars with
  | nil => cases chars <;> simp [encodeUtf8]
  | cons p rest ih =>
    cases p with
    | lone half => cases chars <;> simp [encodeUtf8]
    | scalar c =>
      rcases chars with _ | ⟨d, chars⟩
      · simp [encodeUtf8]
      rw [encodeUtf8, Option.map_eq_some_iff]
      constructor
      · rintro ⟨tail, encoded, same⟩
        obtain ⟨rfl, rfl⟩ := List.cons.inj same
        rw [ih.mp encoded, List.map_cons]
      intro same
      obtain ⟨head, tail⟩ := List.cons.inj same
      obtain rfl := CodePoint.scalar.inj head
      exact ⟨chars, ih.mpr tail, rfl⟩

/-- The bytes agree exactly if the written code points do. -/
theorem canonicalManifestBytes_eq_iff (manifest : ReleaseManifest PyString) :
    canonicalManifestBytes manifest = some (canonicalJSON (manifest.map goString)) ↔
      manifest.tree.write pythonWriter = manifest.tree.write goPoints := by
  rw [canonicalManifestBytes, Option.map_eq_some_iff, ← write_goPoints]
  constructor
  · rintro ⟨text, encoded, same⟩
    rw [encodeUtf8_eq_some.mp encoded, String.ofList_inj.mp (bytes_inj same)]
  · intro same
    exact ⟨_, encodeUtf8_eq_some.mpr same, rfl⟩

/-- A longer text betrays every character that is escaped. -/
theorem plain_of_write_eq {manifest : ReleaseManifest PyString}
    (same : manifest.tree.write pythonWriter = manifest.tree.write goPoints) :
    ∀ text ∈ manifest.strings, ∀ p ∈ text, PlainPoint p := by
  intro text listed p member
  have token : Token.text text ∈ manifest.tree.write tokenWriter := text_mem_tree.mpr listed
  have lengths := congrArg List.length same
  rw [write_eq_tokens pythonWriter, write_eq_tokens goPoints] at lengths
  have alike := length_eq_of_flatMap (fun t _ => length_token_le t) lengths _ token
  rcases plain_of_length_eq alike p member with ⟨half, rfl⟩ | plain
  · -- a surrogate is written by Python as it is, and by Go never
    have written : CodePoint.lone half ∈ manifest.tree.write pythonWriter := by
      rw [write_eq_tokens]
      exact List.mem_flatMap.mpr ⟨_, token, lone_mem_pythonQuoted member⟩
    rw [same, ← write_goPoints] at written
    obtain ⟨c, -, scalar⟩ := List.mem_map.mp written
    cases scalar
  · exact plain

theorem write_eq_of_plain {manifest : ReleaseManifest PyString}
    (plain : ∀ text ∈ manifest.strings, ∀ p ∈ text, PlainPoint p) :
    manifest.tree.write pythonWriter = manifest.tree.write goPoints := by
  rw [write_eq_tokens pythonWriter, write_eq_tokens goPoints]
  refine List.flatMap_congr fun token present => ?_
  cases token with
  | char c => rfl
  | key k => exact (keys_eq k (key_mem_tree present)).symm
  | text s => exact (string_eq_of_plain (plain s (text_mem_tree.mp present))).symm

/-- The canonical bytes of Go and Python agree exactly on the manifests all of whose strings
are free of surrogates and of the five characters Go escapes for HTML and JavaScript. -/
theorem canonical_bytes_agree_iff (manifest : ReleaseManifest PyString) :
    canonicalManifestBytes manifest = some (canonicalJSON (manifest.map goString)) ↔
      ∀ text ∈ manifest.strings, ∀ p ∈ text, PlainPoint p :=
  (canonicalManifestBytes_eq_iff manifest).trans ⟨plain_of_write_eq, write_eq_of_plain⟩

/-- A manifest that meets the schema, with an ampersand in the names of its approvers. -/
def ampersandManifest : ReleaseManifest PyString where
  releaseSHA := pyString "0123456789abcdef0123456789abcdef01234567"
  environment := pyString "production"
  createdAt := pyString "2026-01-01T00:00:00Z"
  artifacts := schemaEvidenceIDs.map fun id =>
    ⟨id, pyString "evidence", pyString
      "e3b0c44298fc1c149afbf4c8996fb92427ae41e4649b934ca495991b7852b855", pyString "run-1"⟩
  approvals := schemaRoles.map fun role =>
    ⟨role, role ++ pyString " & partners", pyString "0123456789abcdef0123456789abcdef01234567",
      pyString "2026-01-01T00:00:00Z"⟩
  worm := ⟨pyString "umoja-worm", pyString "releases/1", pyString "COMPLIANCE",
    pyString "2036-01-01T00:00:00Z"⟩
  reconciliation := ⟨pyString "reconciliation-1"⟩

/-- The schema admits a manifest whose canonical bytes differ. -/
theorem ampersand_bytes_differ :
    satisfiesSchema (fun text => text = pyString "2026-01-01T00:00:00Z" ||
      text = pyString "2036-01-01T00:00:00Z") ampersandManifest = true ∧
    canonicalManifestBytes ampersandManifest ≠
      some (canonicalJSON (ampersandManifest.map goString)) := by
  refine ⟨by decide +kernel, fun same => ?_⟩
  have plain := plain_of_write_eq ((canonicalManifestBytes_eq_iff _).mp same)
  have listed : ∀ text ∈ ampersandManifest.strings, CodePoint.scalar '&' ∉ text := fun text member mark =>
    (plain text member _ mark).2.2.1 rfl
  exact absurd listed (by decide +kernel)

end UmojaFlowOS.Attestation
