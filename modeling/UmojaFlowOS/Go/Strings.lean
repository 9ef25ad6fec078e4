import Mathlib.Data.List.Induction
import Mathlib.Tactic.IntervalCases

/-!
# Strings of the Go standard library

The functions of `strings`, `strconv` and `encoding/hex` the settlement code
calls. A Go string is carried as a Lean `String`, so only well-formed UTF-8 is
represented; the JSON and gRPC decoders in front of the service and the text
columns behind it admit nothing else. The Unicode case tables are a parameter:
every result holds for whatever tables the Go release ships.
-/

namespace UmojaFlowOS.Go

/-- The tables of Go's `unicode` package: `fold` picks one rune from each orbit of
`unicode.SimpleFold`, `upper` is `unicode.ToUpper`, `isPrint` is `strconv.IsPrint`. -/
class CaseTables where
  fold : Char → Char
  upper : Char → Char
  isPrint : Char → Bool

/-- The ASCII part of the tables. -/
@[reducible] def asciiTables : CaseTables where
  fold := Char.toLower
  upper := Char.toUpper
  isPrint c := 0x20 ≤ c.toNat && c.toNat < 0x7f

section
variable [CaseTables]

/-- `strings.EqualFold`: equality rune by rune under simple case folding. -/
def equalFold (s t : String) : Bool :=
  s.toList.map CaseTables.fold == t.toList.map CaseTables.fold

def toUpper (s : String) : String := String.ofList (s.toList.map CaseTables.upper)

end

/-- `unicode.IsSpace`: the code points with property White_Space. -/
def isSpace (c : Char) : Bool :=
  c.toNat ∈ [0x09, 0x0a, 0x0b, 0x0c, 0x0d, 0x20, 0x85, 0xa0, 0x1680, 0x2028, 0x2029, 0x202f,
    0x205f, 0x3000] || (0x2000 ≤ c.toNat && c.toNat ≤ 0x200a)

def trimSpace (s : String) : String :=
  String.ofList ((s.toList.dropWhile isSpace).reverse.dropWhile isSpace).reverse

theorem ne_empty_of_trimSpace_ne (given : trimSpace s ≠ "") : s ≠ "" := by
  rintro rfl
  exact given (by decide)

theorem trimSpace_eq_self (solid : ∀ c ∈ s.toList, isSpace c = false) : trimSpace s = s := by
  have drop : ∀ l : List Char, (∀ c ∈ l, isSpace c = false) → l.dropWhile isSpace = l := by
    intro l hl
    cases l with
    | nil => rfl
    | cons c l => simp [hl c (by simp)]
  unfold trimSpace
  rw [drop _ solid, drop _ (fun c hc => solid c (List.mem_reverse.mp hc)), List.reverse_reverse,
    String.ofList_toList]

/-- The bytes of a string, as `[]byte(s)` and hashing see them. -/
def bytes (s : String) : List UInt8 := s.toUTF8.data.toList

theorem bytes_inj (same : bytes s = bytes t) : s = t := by
  have arrays : s.toUTF8.data = t.toUTF8.data := Array.toList_inj.mp same
  exact String.toByteArray_inj.mp (ByteArray.ext arrays)

theorem bytes_eq_flatMap (s : String) : bytes s = s.toList.flatMap String.utf8EncodeChar := by
  simp only [bytes, String.toUTF8, ← String.utf8Encode_toList (b := s), List.utf8Encode]
  simp

/-- The prefix `s[:limit]` of a string, without a rune the cut would tear. -/
def takeBytes (limit : Nat) : List Char → List Char
  | [] => []
  | c :: rest => if c.utf8Size ≤ limit then c :: takeBytes (limit - c.utf8Size) rest else []

/-! ## Hexadecimal -/

def hexDigits : List Char :=
  ['0', '1', '2', '3', '4', '5', '6', '7', '8', '9', 'a', 'b', 'c', 'd', 'e', 'f']

/-- The digits of `encoding/hex` and of the checks on digests. -/
def isLowerHex (c : Char) : Bool := ('0' ≤ c && c ≤ '9') || ('a' ≤ c && c ≤ 'f')

def hexEncode (bytes : List UInt8) : String :=
  String.ofList (bytes.flatMap fun byte =>
    [hexDigits.getD (byte.toNat / 16) '0', hexDigits.getD (byte.toNat % 16) '0'])

/-- A string of exactly `length` bytes, all lowercase hexadecimal digits. -/
def validLowerHex (value : String) (length : Nat) : Bool :=
  value.utf8ByteSize = length && value.toList.all isLowerHex

theorem isLowerHex_hexDigit (n : Nat) : isLowerHex (hexDigits.getD n '0') = true := by
  rcases Nat.lt_or_ge n 16 with small | large
  · interval_cases n <;> decide
  · rw [List.getD_eq_getElem?_getD, List.getElem?_eq_none (by simpa [hexDigits] using large)]
    decide

theorem utf8Size_of_isLowerHex (hex : isLowerHex c = true) : c.utf8Size = 1 := by
  have below : c.val.toNat ≤ 127 := by
    simp only [isLowerHex, Bool.or_eq_true, Bool.and_eq_true, decide_eq_true_eq, Char.le_def,
      UInt32.le_iff_toNat_le] at hex
    have h9 : ('9' : Char).val.toNat = 57 := rfl
    have hf : ('f' : Char).val.toNat = 102 := rfl
    omega
  exact Char.utf8Size_eq_one_iff.mpr (UInt32.le_iff_toNat_le.mpr below)

/-- The same check on the bytes of the string. -/
def lowerHexBytes (value : String) (length : Nat) : Bool :=
  (bytes value).length = length &&
    (bytes value).all fun b => (48 ≤ b.toNat && b.toNat ≤ 57) || (97 ≤ b.toNat && b.toNat ≤ 102)

theorem all_bytes (same : ∀ c, (String.utf8EncodeChar c).all q = p c) (s : String) :
    (bytes s).all q = s.toList.all p := by
  rw [bytes_eq_flatMap, List.all_flatMap]
  exact congrArg _ (funext same)

theorem utf8EncodeChar_cases (c : Char) :
    (∃ b, String.utf8EncodeChar c = [b] ∧ b.toNat = c.val.toNat) ∨
      (127 < c.val.toNat ∧ ∃ b rest, String.utf8EncodeChar c = b :: rest ∧
        ∀ x ∈ b :: rest, 128 ≤ x.toNat) := by
  rw [String.utf8EncodeChar]
  split
  · exact .inl ⟨_, rfl, Nat.mod_eq_of_lt (by omega)⟩
  split
  · exact .inr ⟨by omega, _, _, rfl, by simp; omega⟩
  split
  · exact .inr ⟨by omega, _, _, rfl, by simp; omega⟩
  · exact .inr ⟨by omega, _, _, rfl, by simp; omega⟩

theorem validLowerHex_eq_bytes (value : String) (length : Nat) :
    validLowerHex value length = lowerHexBytes value length := by
  refine congrArg₂ (· && ·) rfl (all_bytes (fun c => ?_) value).symm
  simp only [isLowerHex, Char.le_def, UInt32.le_iff_toNat_le]
  obtain ⟨b, same, small⟩ | ⟨large, b, rest, same, high⟩ := utf8EncodeChar_cases c
  · simp [same, small]
  have first := high b (.head _)
  rw [same]
  have h9 : ('9' : Char).val.toNat = 57 := rfl
  have hf : ('f' : Char).val.toNat = 102 := rfl
  grind

theorem isSpace_eq_false_of_isLowerHex (hex : isLowerHex c = true) : isSpace c = false := by
  have range : (48 ≤ c.toNat ∧ c.toNat ≤ 57) ∨ (97 ≤ c.toNat ∧ c.toNat ≤ 102) := by
    simpa [isLowerHex, Char.le_def, UInt32.le_iff_toNat_le] using hex
  simp only [isSpace, List.mem_cons, List.not_mem_nil, or_false, Bool.or_eq_false_iff,
    Bool.and_eq_false_iff, decide_eq_false_iff_not]
  omega

theorem trimSpace_ne_of_validLowerHex
    (hex : validLowerHex value length = true) (positive : 0 < length) : trimSpace value ≠ "" := by
  simp only [validLowerHex, Bool.and_eq_true, decide_eq_true_eq, List.all_eq_true] at hex
  rw [trimSpace_eq_self fun c member => isSpace_eq_false_of_isLowerHex (hex.2 c member)]
  rintro rfl
  rw [← hex.1] at positive
  exact absurd positive (by decide)

theorem utf8ByteSize_ofList (l : List Char) :
    (String.ofList l).utf8ByteSize = (l.map Char.utf8Size).sum := by
  induction l using List.reverseRecOn with
  | nil => rfl
  | append_singleton l c ih =>
    have push : String.ofList (l ++ [c]) = (String.ofList l).push c := by
      apply String.toList_injective
      simp
    rw [push, String.utf8ByteSize_push, ih]
    simp

theorem hexEncode_validLowerHex (bytes : List UInt8) :
    validLowerHex (hexEncode bytes) (2 * bytes.length) = true := by
  have digits : ∀ c ∈ (hexEncode bytes).toList, isLowerHex c = true := by
    intro c member
    simp only [hexEncode, String.toList_ofList, List.mem_flatMap, List.mem_cons,
      List.not_mem_nil, or_false] at member
    obtain ⟨byte, -, rfl | rfl⟩ := member
    · exact isLowerHex_hexDigit _
    · exact isLowerHex_hexDigit _
  have sizes : ∀ l : List Char, (∀ c ∈ l, isLowerHex c = true) →
      (l.map Char.utf8Size).sum = l.length := by
    intro l
    induction l with
    | nil => simp
    | cons c l ih =>
      intro hl
      rw [List.map_cons, List.sum_cons, utf8Size_of_isLowerHex (hl c (by simp)),
        ih (fun x hx => hl x (by simp [hx])), List.length_cons]
      omega
  have count : (hexEncode bytes).toList.length = 2 * bytes.length := by
    induction bytes with
    | nil => rfl
    | cons byte bytes ih => simp_all [hexEncode]; omega
  unfold validLowerHex
  rw [Bool.and_eq_true, decide_eq_true_eq, List.all_eq_true]
  refine ⟨?_, digits⟩
  rw [← count, ← sizes _ digits, ← utf8ByteSize_ofList, String.ofList_toList]

/-! ## Quoted strings -/

/-- The last `width` hexadecimal digits of a number. -/
def hexNumber : Nat → Nat → List Char
  | 0, _ => []
  | width + 1, n => hexNumber width (n / 16) ++ [hexDigits.getD (n % 16) '0']

/-- One rune of `strconv.Quote`. -/
def quoteRune [CaseTables] (c : Char) : List Char :=
  if c = '"' ∨ c = '\\' then ['\\', c]
  else if CaseTables.isPrint c then [c]
  else match c.toNat with
    | 0x07 => ['\\', 'a']
    | 0x08 => ['\\', 'b']
    | 0x0c => ['\\', 'f']
    | 0x0a => ['\\', 'n']
    | 0x0d => ['\\', 'r']
    | 0x09 => ['\\', 't']
    | 0x0b => ['\\', 'v']
    | n =>
      if n < 0x20 ∨ n = 0x7f then '\\' :: 'x' :: hexNumber 2 n
      else if n < 0x10000 then '\\' :: 'u' :: hexNumber 4 n
      else '\\' :: 'U' :: hexNumber 8 n

/-- `strconv.Quote`, the verb `%q` of `fmt`. -/
def quote [CaseTables] (s : String) : String :=
  String.ofList ('"' :: s.toList.flatMap quoteRune ++ ['"'])

/-! ## Decimal numbers -/

/-- `strconv.ParseUint(s, 10, 64)`: digits only, and no value beyond 64 bits. -/
def parseUint (s : String) : Option UInt64 :=
  let value := Nat.ofDigitChars 10 s.toList 0
  if s ≠ "" ∧ s.toList.all Char.isDigit ∧ value < 2 ^ 64 then some (UInt64.ofNat value) else none

/-- `strconv.FormatUint(n, 10)`, also `fmt.Sprintf("%d", n)`. -/
def formatUint (n : UInt64) : String := Nat.repr n.toNat

theorem isDigit_of_mem_repr {n : Nat} (member : c ∈ n.repr.toList) : c.isDigit = true := by
  rw [Nat.toList_repr] at member
  exact Nat.isDigit_of_mem_toDigits (by decide) (by decide) member

theorem ofDigitChars_repr (n : Nat) : Nat.ofDigitChars 10 n.repr.toList 0 = n := by
  rw [Nat.toList_repr, Nat.ofDigitChars_ten_toDigits]

theorem isDigit_of_mem_formatUint (member : c ∈ (formatUint n).toList) : c.isDigit = true :=
  isDigit_of_mem_repr member

theorem parseUint_formatUint (n : UInt64) : parseUint (formatUint n) = some n := by
  have value : Nat.ofDigitChars 10 (formatUint n).toList 0 = n.toNat := ofDigitChars_repr _
  have present : formatUint n ≠ "" := by
    intro empty
    have := congrArg String.toList empty
    rw [formatUint, Nat.toList_repr] at this
    exact Nat.toDigits_ne_nil this
  unfold parseUint
  rw [if_pos]
  · rw [value, UInt64.ofNat_toNat]
  refine ⟨present, ?_, ?_⟩
  · rw [List.all_eq_true]
    exact fun c member => isDigit_of_mem_formatUint member
  · rw [value]
    exact n.toNat_lt

end UmojaFlowOS.Go
