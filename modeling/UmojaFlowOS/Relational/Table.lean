import Mathlib.Data.List.Nodup

/-!
# Tables as lists of rows

An `UPDATE ... WHERE` rewrites the matching rows in place. What the proofs use of
a table is which rows an update leaves, and that columns the update does not
write keep their values.
-/

namespace UmojaFlowOS.Relational

variable {ρ κ : Type}

/-- `UPDATE`: `change` on the rows that satisfy `condition`. -/
def updateWhere (condition : ρ → Bool) (change : ρ → ρ) (rows : List ρ) : List ρ :=
  rows.map fun row => if condition row then change row else row

variable {condition : ρ → Bool} {change : ρ → ρ} {rows : List ρ} {row : ρ}

/-- The rows after an `UPDATE`: the changed ones, and those it did not match. -/
theorem mem_updateWhere :
    row ∈ updateWhere condition change rows ↔
      (∃ old ∈ rows, condition old = true ∧ change old = row) ∨
        row ∈ rows ∧ condition row = false := by
  simp only [updateWhere, List.mem_map]
  constructor
  · rintro ⟨old, present, rfl⟩
    cases matched : condition old with
    | true => exact .inl ⟨old, present, matched, by simp⟩
    | false => exact .inr ⟨present, matched⟩
  rintro (⟨old, present, matched, rfl⟩ | ⟨present, unmatched⟩)
  · exact ⟨old, present, by simp [matched]⟩
  · exact ⟨row, present, by simp [unmatched]⟩

theorem updateWhere_of_none (none_ : ∀ row ∈ rows, condition row = false) :
    updateWhere condition change rows = rows := by
  refine (List.map_congr_left fun row present => ?_).trans (List.map_id' rows)
  rw [none_ row present]
  rfl

variable {column : ρ → κ}

theorem map_updateWhere (kept : ∀ row, column (change row) = column row) :
    (updateWhere condition change rows).map column = rows.map column := by
  simp only [updateWhere, List.map_map]
  refine List.map_congr_left fun row _ => ?_
  simp only [Function.comp]
  split
  · exact kept row
  · rfl

theorem nodup_map_updateWhere (kept : ∀ row, column (change row) = column row)
    (unique : (rows.map column).Nodup) : ((updateWhere condition change rows).map column).Nodup := by
  rw [map_updateWhere kept]
  exact unique

/-- An inserted row keeps a column unique when no row has its value. -/
theorem nodup_map_concat (unique : (rows.map column).Nodup)
    (fresh : ∀ old ∈ rows, column old ≠ column row) : ((rows ++ [row]).map column).Nodup := by
  rw [List.map_append, List.map_singleton, ← List.concat_eq_append, List.nodup_concat]
  refine ⟨fun member => ?_, unique⟩
  obtain ⟨old, present, same⟩ := List.mem_map.mp member
  exact fresh old present same

/-- With a unique column, one matching row is the only one. -/
theorem mem_updateWhere_of_unique (unique : (rows.map column).Nodup)
    (present : old ∈ rows) (matched : condition old = true)
    (only : ∀ row, condition row = true → column row = column old) :
    row ∈ updateWhere condition change rows ↔
      row = change old ∨ row ∈ rows ∧ column row ≠ column old := by
  rw [mem_updateWhere]
  constructor
  · rintro (⟨other, there, held, rfl⟩ | ⟨there, unheld⟩)
    · left
      rw [List.inj_on_of_nodup_map unique there present (only other held)]
    refine .inr ⟨there, fun same => ?_⟩
    rw [List.inj_on_of_nodup_map unique there present same, matched] at unheld
    cases unheld
  rintro (rfl | ⟨there, different⟩)
  · exact .inl ⟨old, present, matched, rfl⟩
  refine .inr ⟨there, ?_⟩
  cases held : condition row with
  | true => exact absurd (only row held) different
  | false => rfl

theorem find?_of_unique [DecidableEq κ] (unique : (rows.map column).Nodup)
    (present : row ∈ rows) : rows.find? (fun other => column other = column row) = some row := by
  cases found : rows.find? fun other => column other = column row with
  | none => exact absurd (List.find?_eq_none.mp found row present) (by simp)
  | some other =>
    have same : column other = column row := by simpa using List.find?_some found
    rw [List.inj_on_of_nodup_map unique (List.mem_of_find?_eq_some found) present same]

/-! ## From one state of a table to the next -/

section
variable {σ : Type} {status : ρ → σ} {later : List ρ} {moves : ρ → ρ → Prop} {starts : ρ → Prop}

/-- With a unique key it is enough to know where each row of the later table comes from. -/
theorem step_of_origins (unique : (rows.map column).Nodup)
    (origin : ∀ after ∈ later, (∃ before ∈ rows, column before = column after ∧
        (status after = status before ∨ moves before after)) ∨
      (∀ before ∈ rows, column before ≠ column after) ∧ starts after) :
    (∀ before ∈ rows, ∀ after ∈ later, column after = column before →
      status after ≠ status before → moves before after) ∧
    ∀ after ∈ later, (∀ before ∈ rows, column before ≠ column after) → starts after := by
  refine ⟨fun before listed after present own moved => ?_, fun after present new => ?_⟩
  · rcases origin after present with ⟨old, there, same, how⟩ | ⟨new, -⟩
    · obtain rfl := List.inj_on_of_nodup_map unique there listed (same.trans own)
      exact how.resolve_left moved
    · exact absurd own.symm (new before listed)
  · rcases origin after present with ⟨old, there, same, -⟩ | ⟨-, starts⟩
    · exact absurd same (new old there)
    · exact starts

/-- A row of the later table has kept its status, has moved, or is new. -/
theorem origin_of_step (moved : ∀ before ∈ rows, ∀ after ∈ later, column after = column before →
      status after ≠ status before → moves before after)
    (fresh : ∀ after ∈ later, (∀ before ∈ rows, column before ≠ column after) → starts after)
    (present : row ∈ later) :
    (∃ before ∈ rows, column before = column row ∧
      (status row = status before ∨ moves before row)) ∨ starts row := by
  by_cases known : ∃ before ∈ rows, column before = column row
  · obtain ⟨before, listed, own⟩ := known
    by_cases same : status row = status before
    · exact .inl ⟨before, listed, own, .inl same⟩
    · exact .inl ⟨before, listed, own, .inr (moved before listed row present own.symm same)⟩
  · exact .inr (fresh row present fun before listed own => known ⟨before, listed, own⟩)

end

end UmojaFlowOS.Relational
