import Mathlib.Data.List.Basic

/-!
# Codes that end by themselves

A code is delimited if it can be told from what follows it. Such codes may be written one
after the other and are read back without a mark between them.
-/

namespace UmojaFlowOS.Encoding

variable {α β : Type}

/-- Two texts that begin with codes and agree begin with the same code. -/
def Delimited (code : α → List β) : Prop :=
  ∀ a b x y, code a ++ x = code b ++ y → a = b ∧ x = y

variable {code : α → List β}

theorem delimited_of_read {read : List β → Option (α × List β)}
    (reads : ∀ a rest, read (code a ++ rest) = some (a, rest)) : Delimited code := by
  intro a b x y same
  have equal := congrArg read same
  rw [reads, reads] at equal
  exact Prod.mk.inj (Option.some.inj equal)

theorem Delimited.after (delimited : Delimited code) (text : List β) :
    Delimited fun a => text ++ code a := by
  intro a b x y same
  rw [List.append_assoc, List.append_assoc] at same
  exact delimited a b x y (List.append_cancel_left same)

/-- Codes one after the other, up to a mark that no code begins with. -/
theorem Delimited.list (delimited : Delimited code)
    (begins : ∀ a, ∃ first rest, code a = first :: rest ∧ first ≠ stop) :
    Delimited fun l : List α => l.flatMap code ++ [stop] := by
  intro l
  induction l with
  | nil =>
    intro m x y same
    rcases m with _ | ⟨b, m⟩
    · exact ⟨rfl, List.append_cancel_left same⟩
    obtain ⟨first, rest, starts, other⟩ := begins b
    dsimp only at same
    rw [List.flatMap_cons, starts] at same
    exact absurd (List.cons.inj same).1.symm other
  | cons a l ih =>
    intro m x y same
    cases m with
    | nil =>
      obtain ⟨first, rest, starts, other⟩ := begins a
      dsimp only at same
      rw [List.flatMap_cons, starts] at same
      exact absurd (List.cons.inj same).1 other
    | cons b m =>
      dsimp only at same
      rw [List.flatMap_cons, List.flatMap_cons] at same
      simp only [List.append_assoc] at same
      obtain ⟨rfl, same⟩ := delimited a b _ _ same
      obtain ⟨rfl, rest⟩ := ih m x y (by simpa using same)
      exact ⟨rfl, rest⟩

/-- Codes of a list with a separator in between, up to the mark. -/
theorem Delimited.separated (delimited : Delimited code) (other : separator ≠ stop)
    (same : [separator].intercalate ((a :: l).map code) ++ stop :: x =
      [separator].intercalate ((b :: m).map code) ++ stop :: y) : a :: l = b :: m ∧ x = y := by
  have unfolded (a : α) (l : List α) (x : List β) :
      [separator].intercalate ((a :: l).map code) ++ stop :: x =
        code a ++ ((l.flatMap fun b => [separator] ++ code b) ++ [stop] ++ x) := by
    induction l generalizing a with
    | nil => simp
    | cons b l ih =>
      have next := ih b
      simp only [List.map_cons, List.intercalate_cons_cons, List.flatMap_cons, List.append_assoc,
        List.cons_append, List.nil_append] at next ⊢
      rw [next]
  rw [unfolded, unfolded] at same
  obtain ⟨rfl, rest⟩ := delimited a b _ _ same
  have listed : Delimited fun l : List α => (l.flatMap fun b => [separator] ++ code b) ++ [stop] :=
    (delimited.after [separator]).list fun a => ⟨separator, code a, rfl, other⟩
  obtain ⟨rfl, equal⟩ := listed l m x y rest
  exact ⟨rfl, equal⟩

end UmojaFlowOS.Encoding
