import UmojaFlowOS.Relational.Numeric

/-!
# Texts in JavaScript

`trim` removes white space and line terminators at both ends, `length` counts UTF-16 units,
and a decimal amount is a text of the form `\d+(\.\d{1,n})?`.
-/

namespace UmojaFlowOS.TypeScript

open Relational

def isWhiteSpace (c : Char) : Bool :=
  (0x09 ≤ c.toNat && c.toNat ≤ 0x0D) || (0x2000 ≤ c.toNat && c.toNat ≤ 0x200A) ||
    [0x20, 0xA0, 0x1680, 0x2028, 0x2029, 0x202F, 0x205F, 0x3000, 0xFEFF].contains c.toNat

def trim (text : String) : List Char :=
  ((text.toList.dropWhile isWhiteSpace).reverse.dropWhile isWhiteSpace).reverse

/-- The number of UTF-16 units: two for a character outside of the basic plane. -/
def utf16Length (text : List Char) : Nat :=
  (text.map fun c => if c.toNat < 0x10000 then 1 else 2).sum

def isDigits (text : List Char) : Bool := !text.isEmpty && text.all Char.isDigit

/-- The number that a text of the form `\d+(\.\d{1,places})?` stands for. -/
def readDecimal (places : Nat) (text : String) : Option Numeric :=
  match text.toList.splitOn '.' with
  | [whole] => if isDigits whole then some ⟨Nat.ofDigitChars 10 whole 0, 0⟩ else none
  | [whole, fraction] =>
    if isDigits whole && isDigits fraction && fraction.length ≤ places then
      some ⟨Nat.ofDigitChars 10 (whole ++ fraction) 0, fraction.length⟩
    else none
  | _ => none

/-- What is read has no sign and at most the given places. -/
theorem readDecimal_bounds (read : readDecimal places text = some amount) :
    0 ≤ amount.unscaled ∧ amount.scale ≤ places := by
  unfold readDecimal at read
  split at read
  · cases (Option.ite_none_right_eq_some.mp read).2
    exact ⟨Int.natCast_nonneg _, Nat.zero_le _⟩
  · obtain ⟨held, same⟩ := Option.ite_none_right_eq_some.mp read
    cases same
    rw [Bool.and_eq_true, decide_eq_true_eq] at held
    exact ⟨Int.natCast_nonneg _, held.2⟩
  · cases read

example : readDecimal 12 "1250.50" = some ⟨125050, 2⟩ := by decide

example : readDecimal 12 ".5" = none := by decide

end UmojaFlowOS.TypeScript
