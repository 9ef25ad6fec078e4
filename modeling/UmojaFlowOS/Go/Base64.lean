import UmojaFlowOS.Go.Errors
import Mathlib.Data.List.Basic

/-!
# `encoding/base64`

`base64.StdEncoding`: the standard alphabet with padding. The bits that padding leaves over are
not looked at. A text has no line breaks here, which Go would skip.
-/

namespace UmojaFlowOS.Go.Base64

/-- The alphabet: capital letters, small letters, decimal digits, a plus and a slash. -/
def digit (n : Nat) : Char :=
  if n < 26 then Char.ofNat (n + 65)
  else if n < 52 then Char.ofNat (n + 71)
  else if n < 62 then Char.ofNat (n - 4)
  else if n = 62 then '+'
  else '/'

def value (c : Char) : Option Nat :=
  if c.isUpper then some (c.toNat - 65)
  else if c.isLower then some (c.toNat - 71)
  else if c.isDigit then some (c.toNat + 4)
  else if c = '+' then some 62
  else if c = '/' then some 63
  else none

def encode : List UInt8 → List Char
  | a :: b :: c :: rest =>
    let n := (a.toNat * 256 + b.toNat) * 256 + c.toNat
    digit (n / 262144) :: digit (n / 4096 % 64) :: digit (n / 64 % 64) :: digit (n % 64) ::
      encode rest
  | [a, b] =>
    let n := (a.toNat * 256 + b.toNat) * 4
    [digit (n / 4096), digit (n / 64 % 64), digit (n % 64), '=']
  | [a] => [digit (a.toNat * 16 / 64), digit (a.toNat * 16 % 64), '=', '=']
  | [] => []

/-- The bytes of whole groups of four characters. -/
def decode : List Char → Option (List UInt8)
  | [] => some []
  | a :: b :: c :: d :: rest => do
    let a ← value a
    let b ← value b
    if c = '=' ∧ d = '=' ∧ rest = [] then return [.ofNat ((a * 64 + b) / 16)]
    let c ← value c
    let n := (a * 64 + b) * 64 + c
    if d = '=' ∧ rest = [] then return [.ofNat (n / 1024), .ofNat (n / 4)]
    let d ← value d
    let n := n * 64 + d
    return .ofNat (n / 65536) :: .ofNat (n / 256) :: .ofNat n :: (← decode rest)
  | _ => none

def encodeToString (data : List UInt8) : String := String.ofList (encode data)

/-- The error names no position in the text. -/
def decodeString (text : String) : Except GoError (List UInt8) :=
  match decode text.toList with
  | some data => .ok data
  | none => .error (.new "illegal base64 data")

/-! ## Reading back what was written -/

section
variable (small : n < 64)
include small

theorem value_digit : value (digit n) = some n := by
  revert n
  decide +kernel

theorem digit_ne_pad : digit n ≠ '=' := by
  revert n
  decide +kernel

end

theorem ofNat_eq (same : n % 256 = a.toNat) : UInt8.ofNat n = a := by
  rw [← UInt8.toNat_inj, UInt8.toNat_ofNat', same]

/-- Decoding undoes encoding, group by group. -/
theorem decode_encode (data : List UInt8) : decode (encode data) = some data := by
  fun_induction encode data with
  | case1 a b c rest n ih =>
    have first := a.toNat_lt
    have second := b.toNat_lt
    have third := c.toNat_lt
    have number : n = (a.toNat * 256 + b.toNat) * 256 + c.toNat := rfl
    have joined : ((n / 262144 * 64 + n / 4096 % 64) * 64 + n / 64 % 64) * 64 + n % 64 = n := by
      omega
    rw [decode, value_digit (by omega), value_digit (by omega), value_digit (by omega),
      value_digit (by omega), ih]
    simp only [digit_ne_pad (show n / 64 % 64 < 64 by omega),
      digit_ne_pad (show n % 64 < 64 by omega), false_and, if_false, Option.bind_eq_bind,
      Option.bind_some, Option.pure_def, joined]
    rw [ofNat_eq (a := a) (by omega), ofNat_eq (a := b) (by omega), ofNat_eq (a := c) (by omega)]
  | case2 a b n =>
    have first := a.toNat_lt
    have second := b.toNat_lt
    have number : n = (a.toNat * 256 + b.toNat) * 4 := rfl
    rw [decode, value_digit (by omega), value_digit (by omega), value_digit (by omega)]
    simp only [digit_ne_pad (show n % 64 < 64 by omega), false_and, and_self, if_false, if_true,
      Option.bind_eq_bind, Option.bind_some, Option.pure_def]
    rw [ofNat_eq (a := a) (by omega), ofNat_eq (a := b) (by omega)]
  | case3 a =>
    have first := a.toNat_lt
    rw [decode, value_digit (by omega), value_digit (by omega)]
    simp only [and_self, if_true, Option.bind_eq_bind, Option.bind_some, Option.pure_def]
    rw [ofNat_eq (a := a) (by omega)]
  | case4 => rfl

theorem decodeString_encodeToString (data : List UInt8) :
    decodeString (encodeToString data) = .ok data := by
  rw [decodeString, encodeToString, String.toList_ofList, decode_encode]

end UmojaFlowOS.Go.Base64
