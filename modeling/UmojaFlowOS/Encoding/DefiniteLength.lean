import Mathlib.Data.Nat.Log
import Mathlib.Tactic.Ring
import UmojaFlowOS.Crypto.Sha256

/-!
# Values under a tag and a definite length

A value is preceded by a tag and by its length: one byte below 128, or a byte that counts the
big-endian bytes of the length. The distinguished encoding takes the first form that fits and
writes no leading zero.
-/

namespace UmojaFlowOS.Encoding

open Crypto

/-- The elements at the positions `start ≤ i < stop`. -/
def slice {α : Type} (data : List α) (start stop : Nat) : List α :=
  (data.drop start).take (stop - start)

section Slices

variable {α : Type} {data : List α}

theorem slice_append (first : i ≤ j) (second : j ≤ k) :
    slice data i j ++ slice data j k = slice data i k := by
  have middle : slice data j k = ((data.drop i).drop (j - i)).take (k - j) := by
    rw [List.drop_drop, Nat.add_sub_cancel' first]
    rfl
  rw [middle, slice, ← List.take_add, slice, show j - i + (k - j) = k - i by omega]

theorem slice_one (present : data[i]? = some a) : slice data i (i + 1) = [a] := by
  obtain ⟨bound, rfl⟩ := List.getElem?_eq_some_iff.mp present
  rw [slice, List.drop_eq_getElem_cons bound, Nat.add_sub_cancel_left]
  rfl

theorem length_slice (bound : j ≤ data.length) : (slice data i j).length = j - i := by
  simp only [slice, List.length_take, List.length_drop]
  omega

theorem slice_middle (before middle after : List α) :
    slice (before ++ (middle ++ after)) before.length (before.length + middle.length) = middle := by
  simp [slice]

end Slices

/-- `Header tag length bytes`: the bytes announce a value of that length under the tag. -/
inductive Header (tag : UInt8) : Nat → List UInt8 → Prop where
  | short (length : UInt8) (form : length.toNat < 128) : Header tag length.toNat [tag, length]
  | long (count : UInt8) (length : List UInt8) (form : 128 ≤ count.toNat)
      (counted : length.length = count.toNat - 128) (some : length ≠ []) :
      Header tag (ofBigEndian length) (tag :: count :: length)

/-- The bytes that a length takes, most significant first, without leading zeros. -/
def lengthBytes (length : Nat) : List UInt8 := bigEndian (Nat.log 256 length + 1) length

/-- The header of the distinguished encoding. -/
def derHeader (tag : UInt8) (length : Nat) : List UInt8 :=
  if length < 128 then [tag, UInt8.ofNat length]
  else tag :: UInt8.ofNat (128 + (lengthBytes length).length) :: lengthBytes length

def derEncode (tag : UInt8) (value : List UInt8) : List UInt8 :=
  derHeader tag value.length ++ value

/-- The lengths that at most 126 bytes hold; the count 127 is reserved. -/
def LengthFits (length : Nat) : Prop := length < 256 ^ 126

theorem ofBigEndian_bigEndian (width value : Nat) :
    ofBigEndian (bigEndian width value) = value % 256 ^ width := by
  induction width generalizing value with
  | zero => simp [bigEndian, ofBigEndian, Nat.mod_one]
  | succ width ih =>
    have last : ofBigEndian (bigEndian (width + 1) value) =
        ofBigEndian (bigEndian width (value / 256)) * 256 + value % 256 := by
      simp [ofBigEndian, bigEndian]
    rw [last, ih, Nat.pow_succ', Nat.mod_mul]
    omega

theorem ofBigEndian_lengthBytes (length : Nat) : ofBigEndian (lengthBytes length) = length := by
  rw [lengthBytes, ofBigEndian_bigEndian]
  exact Nat.mod_eq_of_lt (Nat.lt_pow_succ_log_self (by decide) length)

/-- The distinguished header is one of the headers of its value. -/
theorem derHeader_is_header (tag : UInt8) (encodable : LengthFits length) :
    Header tag length (derHeader tag length) := by
  unfold derHeader
  split
  case isTrue small =>
    have exact : (UInt8.ofNat length).toNat = length := by
      rw [UInt8.toNat_ofNat']
      omega
    have header : Header tag _ _ := .short (UInt8.ofNat length) (by omega)
    rwa [exact] at header
  case isFalse large =>
    have fits : Nat.log 256 length < 126 := Nat.log_lt_of_lt_pow (by omega) encodable
    have count : (lengthBytes length).length = Nat.log 256 length + 1 := bigEndian_length ..
    have exact : (UInt8.ofNat (128 + (lengthBytes length).length)).toNat =
        128 + (lengthBytes length).length := by
      rw [UInt8.toNat_ofNat']
      omega
    have header : Header tag _ _ := .long (UInt8.ofNat (128 + (lengthBytes length).length))
      (lengthBytes length) (by omega) (by omega) (List.ne_nil_of_length_eq_add_one count)
    rwa [ofBigEndian_lengthBytes] at header

end UmojaFlowOS.Encoding
