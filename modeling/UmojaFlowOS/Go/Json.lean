import UmojaFlowOS.Go.Strings

/-!
# JSON text as `encoding/json` writes it

`json.Marshal` on flat objects of strings and integers: HTML-escaped strings,
decimal integers, no white space, and keys in the order given (Go sorts the keys
of a map, so callers list them sorted). Reading is modelled for such objects without
white space; reading back what was written gives the fields that were written.
-/

namespace UmojaFlowOS.Go

def hexDigitsOf (width value : Nat) : List Char :=
  ((List.range width).map fun i => hexDigits.getD (value / 16 ^ i % 16) '0').reverse

/-- One character of a JSON string literal; the characters in `coded` are written by their
code, where they have no escape of their own. -/
def escapeRune (coded : Char → Bool) (c : Char) : List Char :=
  if c = '"' then ['\\', '"']
  else if c = '\\' then ['\\', '\\']
  else if c.toNat = 0x08 then ['\\', 'b']
  else if c.toNat = 0x0c then ['\\', 'f']
  else if c = '\n' then ['\\', 'n']
  else if c = '\r' then ['\\', 'r']
  else if c = '\t' then ['\\', 't']
  else if coded c then ['\\', 'u'] ++ hexDigitsOf 4 c.toNat
  else [c]

/-- The control characters, those of HTML and the two line separators. -/
def goCoded (c : Char) : Bool :=
  c.toNat < 0x20 || c = '<' || c = '>' || c = '&' || c.toNat = 0x2028 || c.toNat = 0x2029

def jsonRune : Char → List Char := escapeRune goCoded

def jsonString (s : String) : String :=
  "\"" ++ String.ofList (s.toList.flatMap jsonRune) ++ "\""

inductive JsonValue where
  | str (text : String)
  | num (value : Nat)

def JsonValue.encode : JsonValue → String
  | .str text => jsonString text
  | .num value => Nat.repr value

def jsonObject (fields : List (String × JsonValue)) : String :=
  "\x7b" ++ String.intercalate "," (fields.map fun field =>
    jsonString field.1 ++ ":" ++ field.2.encode) ++ "\x7d"

/-- An object whose values are given as JSON text. -/
def jsonFields (fields : List (String × String)) : String :=
  "\x7b" ++ String.intercalate "," (fields.map fun field => jsonString field.1 ++ ":" ++ field.2) ++
    "\x7d"

/-! ## Strings that are written as they are -/

theorem jsonRune_of_isLowerHex (hex : isLowerHex c = true) : jsonRune c = [c] := by
  have range : (48 ≤ c.toNat ∧ c.toNat ≤ 57) ∨ (97 ≤ c.toNat ∧ c.toNat ≤ 102) := by
    simpa [isLowerHex, Char.le_def, UInt32.le_iff_toNat_le] using hex
  have other : ∀ d : Char, d.toNat < 48 ∨ d.toNat = 60 ∨ d.toNat = 62 ∨ d.toNat = 92 → c ≠ d := by
    rintro d code rfl
    omega
  unfold jsonRune escapeRune goCoded
  rw [if_neg (other '"' (by decide)), if_neg (other '\\' (by decide)), if_neg (by omega),
    if_neg (by omega), if_neg (other '\n' (by decide)), if_neg (other '\r' (by decide)),
    if_neg (other '\t' (by decide)), if_neg]
  simp only [Bool.or_eq_true, decide_eq_true_eq, not_or]
  exact ⟨⟨⟨⟨⟨by omega, other '<' (by decide)⟩, other '>' (by decide)⟩, other '&' (by decide)⟩,
    by omega⟩, by omega⟩

theorem jsonString_of_isLowerHex (hex : ∀ c ∈ s.toList, isLowerHex c = true) :
    jsonString s = "\"" ++ s ++ "\"" := by
  have plain : s.toList.flatMap jsonRune = s.toList := by
    rw [List.flatMap_def, List.map_congr_left fun c member => jsonRune_of_isLowerHex (hex c member),
      ← List.flatMap_def]
    exact List.flatMap_singleton' _
  rw [jsonString, plain, String.ofList_toList]

/-! ## JSON text has no NUL -/

theorem nul_notMem_jsonRune (c : Char) : '\x00' ∉ jsonRune c := by
  unfold jsonRune escapeRune
  split_ifs with h1 h2 h3 h4 h5 h6 h7 special
  · decide
  · decide
  · decide
  · decide
  · decide
  · decide
  · decide
  · intro present
    have digit : '\x00' ∈ hexDigitsOf 4 c.toNat := by simpa using present
    obtain ⟨i, -, same⟩ := List.mem_map.mp (List.mem_reverse.mp digit)
    have hex := isLowerHex_hexDigit (c.toNat / 16 ^ i % 16)
    rw [same] at hex
    exact absurd hex (by decide)
  intro present
  obtain rfl := List.mem_singleton.mp present
  exact special (by decide)

theorem nul_notMem_jsonString (s : String) : '\x00' ∉ (jsonString s).toList := by
  have quote : '\x00' ∉ "\"".toList := by decide
  simp only [jsonString, String.toList_append, String.toList_ofList, List.mem_append, List.mem_flatMap]
  rintro ((opening | ⟨c, -, rune⟩) | closing)
  · exact quote opening
  · exact nul_notMem_jsonRune c rune
  · exact quote closing

theorem nul_notMem_encode (value : JsonValue) : '\x00' ∉ value.encode.toList := by
  cases value with
  | str text => exact nul_notMem_jsonString text
  | num n =>
    intro present
    rw [JsonValue.encode, Nat.toList_repr] at present
    exact absurd (Nat.isDigit_of_mem_toDigits (by decide) (by decide) present) (by decide)

theorem notMem_intercalate {separator : List Char} (between : c ∉ separator)
    (inside : ∀ part ∈ parts, c ∉ part) : c ∉ separator.intercalate parts := by
  induction parts with
  | nil => simp
  | cons part parts ih =>
    have rest := ih fun other present => inside other (by simp [present])
    have first := inside part List.mem_cons_self
    cases parts with
    | nil => simpa using first
    | cons next parts => simp [first, between, rest]

theorem nul_notMem_jsonObject (fields : List (String × JsonValue)) :
    '\x00' ∉ (jsonObject fields).toList := by
  have brackets : '\x00' ∉ "\x7b".toList ∧ '\x00' ∉ ",".toList ∧ '\x00' ∉ ":".toList ∧
      '\x00' ∉ "\x7d".toList := by decide
  obtain ⟨opens, comma, colon, closes⟩ := brackets
  have inside : ∀ part ∈ (fields.map fun field => jsonString field.1 ++ ":" ++ field.2.encode).map
      String.toList, '\x00' ∉ part := by
    intro part present
    simp only [List.map_map, List.mem_map, Function.comp] at present
    obtain ⟨field, -, rfl⟩ := present
    simp only [String.toList_append, List.mem_append]
    rintro ((name | between) | value)
    · exact nul_notMem_jsonString _ name
    · exact colon between
    · exact nul_notMem_encode _ value
  simp only [jsonObject, String.toList_append, String.toList_intercalate, List.mem_append]
  rintro ((opening | body) | closing)
  · exact opens opening
  · exact notMem_intercalate comma inside body
  · exact closes closing

/-! ## Reading a text -/

def hexValue (c : Char) : Option Nat :=
  if '0' ≤ c ∧ c ≤ '9' then some (c.toNat - 48)
  else if 'a' ≤ c ∧ c ≤ 'f' then some (c.toNat - 87)
  else if 'A' ≤ c ∧ c ≤ 'F' then some (c.toNat - 55)
  else none

section
-- Whether an escaped NUL is taken.
variable (nul : Bool)

/-- The character of a `\uXXXX` escape; halves of surrogate pairs are not modelled. -/
def longEscape (a b c d : Char) : Option Char :=
  match hexValue a, hexValue b, hexValue c, hexValue d with
  | some a, some b, some c, some d =>
    let code := ((a * 16 + b) * 16 + c) * 16 + d
    if (code = 0 ∧ nul = false) ∨ (0xD800 ≤ code ∧ code < 0xE000) then none
    else some (Char.ofNat code)
  | _, _, _, _ => none

def shortEscape (c : Char) : Option Char :=
  if c = '"' ∨ c = '\\' ∨ c = '/' then some c
  else if c = 'b' then some (Char.ofNat 0x08)
  else if c = 'f' then some (Char.ofNat 0x0c)
  else if c = 'n' then some '\n'
  else if c = 'r' then some '\r'
  else if c = 't' then some '\t'
  else none

/-- The rest of a string literal after its opening quote, and what follows it. -/
def readString : List Char → Option (List Char × List Char)
  | [] => none
  | c :: rest =>
    if c = '"' then some ([], rest)
    else if c = '\\' then
      match rest with
      | 'u' :: h1 :: h2 :: h3 :: h4 :: rest =>
        (longEscape nul h1 h2 h3 h4).bind fun char =>
          (readString rest).map fun (text, rest) => (char :: text, rest)
      | code :: rest =>
        (shortEscape code).bind fun char =>
          (readString rest).map fun (text, rest) => (char :: text, rest)
      | [] => none
    else if c.toNat < 0x20 then none
    else (readString rest).map fun (text, rest) => (c :: text, rest)

/-- A string or a natural number in its canonical decimal form. -/
def readValue (text : List Char) : Option (JsonValue × List Char) :=
  match text with
  | '"' :: rest => (readString nul rest).map fun (value, rest) => (.str (String.ofList value), rest)
  | _ =>
    let digits := text.takeWhile Char.isDigit
    let value := Nat.ofDigitChars 10 digits 0
    if Nat.toDigits 10 value = digits then some (.num value, text.dropWhile Char.isDigit) else none

/-- The members of an object up to its closing brace, which ends the text. -/
def readMembers : Nat → List Char → Option (List (String × JsonValue))
  | fuel + 1, '"' :: rest =>
    match readString nul rest with
    | some (name, ':' :: rest) =>
      match readValue nul rest with
      | some (value, ['\x7d']) => some [(String.ofList name, value)]
      | some (value, ',' :: rest) =>
        (readMembers fuel rest).map ((String.ofList name, value) :: ·)
      | _ => none
    | _ => none
  | _, _ => none

def readObject (text : String) : Option (List (String × JsonValue)) :=
  match text.toList with
  | '\x7b' :: rest => if rest = ['\x7d'] then some [] else readMembers nul rest.length rest
  | _ => none

end

/-! ## Reading back what was written -/

variable {nul : Bool}

theorem hexValue_hexDigit (digit : n < 16) : hexValue (hexDigits.getD n '0') = some n := by
  interval_cases n <;> decide

theorem longEscape_hexDigitsOf (taken : nul = true ∨ code ≠ 0) (small : code < 0xD800) :
    ∃ h1 h2 h3 h4, hexDigitsOf 4 code = [h1, h2, h3, h4] ∧
      longEscape nul h1 h2 h3 h4 = some (Char.ofNat code) := by
  refine ⟨_, _, _, _, rfl, ?_⟩
  have digit (i : Nat) := hexValue_hexDigit (Nat.mod_lt (code / 16 ^ i) (by decide : 0 < 16))
  have value : ((code / 16 ^ 3 % 16 * 16 + code / 16 ^ 2 % 16) * 16 + code / 16 ^ 1 % 16) * 16 +
      code / 16 ^ 0 % 16 = code := by omega
  unfold longEscape
  rw [digit 3, digit 2, digit 1, digit 0]
  dsimp only
  rw [value, if_neg (by grind)]

theorem readString_jsonRune (taken : nul = true ∨ c.toNat ≠ 0) (rest : List Char) :
    readString nul (jsonRune c ++ rest) =
      (readString nul rest).map fun (text, rest) => (c :: text, rest) := by
  unfold jsonRune escapeRune
  split_ifs with h1 h2 h3 h4 h5 h6 h7 special
  · subst h1
    rfl
  · subst h2
    rfl
  · rw [← Char.ofNat_toNat c, h3]
    rfl
  · rw [← Char.ofNat_toNat c, h4]
    rfl
  · subst h5
    rfl
  · subst h6
    rfl
  · subst h7
    rfl
  · have small : c.toNat < 0xD800 := by
      simp only [goCoded, Bool.or_eq_true, decide_eq_true_eq] at special
      rcases special with ((((control | rfl) | rfl) | rfl) | separator) | separator
      · omega
      · decide
      · decide
      · decide
      · omega
      · omega
    obtain ⟨h1, h2, h3, h4, digits, read⟩ := longEscape_hexDigitsOf taken small
    rw [digits]
    simp only [List.cons_append, List.nil_append, readString, read, Option.bind_some,
      Char.ofNat_toNat]
    rfl
  have printable : ¬ c.toNat < 0x20 := by
    intro control
    exact special (by simp [goCoded, control])
  rw [List.cons_append, List.nil_append, readString.eq_def]
  simp only [if_neg h1, if_neg h2, if_neg printable]

/-- A string literal is read back, up to its closing quote. -/
theorem readString_jsonString (taken : nul = true ∨ '\x00' ∉ text) (rest : List Char) :
    readString nul (text.flatMap jsonRune ++ '"' :: rest) = some (text, rest) := by
  induction text with
  | nil =>
    rw [List.flatMap_nil, List.nil_append, readString.eq_def]
    rfl
  | cons c text ih =>
    have char : nul = true ∨ c.toNat ≠ 0 := taken.imp_right fun chars zero => by
      have first : c = '\x00' := by rw [← Char.ofNat_toNat c, zero]
      exact chars (first ▸ List.mem_cons_self)
    rw [List.flatMap_cons, List.append_assoc, readString_jsonRune char,
      ih (taken.imp_right fun chars listed => chars (by simp [listed])), Option.map_some]

def readable (nul : Bool) : JsonValue → Bool
  | .str text => nul || !text.toList.contains '\x00'
  | .num _ => true

/-- A written value is read as itself, up to the next delimiter. -/
theorem readValue_encode (ok : readable nul value = true)
    (delimiter : c.isDigit = false) (rest : List Char) :
    readValue nul (value.encode.toList ++ c :: rest) = some (value, c :: rest) := by
  cases value with
  | str text =>
    have taken : nul = true ∨ '\x00' ∉ text.toList := by simpa [readable] using ok
    have written : (JsonValue.str text).encode.toList ++ c :: rest =
        '"' :: (text.toList.flatMap jsonRune ++ '"' :: c :: rest) := by
      simp [JsonValue.encode, jsonString]
    rw [written, readValue, readString_jsonString taken]
    simp
  | num value =>
    have digits : ∀ d ∈ Nat.toDigits 10 value, d.isDigit = true := fun d member =>
      Nat.isDigit_of_mem_toDigits (by decide) (by decide) member
    have written : (JsonValue.num value).encode.toList = Nat.toDigits 10 value := by
      simp [JsonValue.encode]
    have taken : (Nat.toDigits 10 value ++ c :: rest).takeWhile Char.isDigit =
        Nat.toDigits 10 value := by
      rw [List.takeWhile_append_of_pos digits, List.takeWhile_cons_of_neg (by simp [delimiter]),
        List.append_nil]
    have left : (Nat.toDigits 10 value ++ c :: rest).dropWhile Char.isDigit = c :: rest := by
      rw [List.dropWhile_append_of_pos digits, List.dropWhile_cons_of_neg (by simp [delimiter])]
    have notString : ∀ after, Nat.toDigits 10 value ++ c :: rest ≠ '"' :: after := by
      intro after same
      rcases first : Nat.toDigits 10 value with _ | ⟨d, others⟩
      · exact absurd first (by simp)
      rw [first, List.cons_append, List.cons.injEq] at same
      have digit := digits d (first ▸ List.mem_cons_self)
      rw [same.1] at digit
      exact absurd digit (by decide)
    rw [written, readValue.eq_def]
    split
    · rename_i after same
      exact absurd same (notString after)
    · simp only [taken, left, Nat.ofDigitChars_ten_toDigits, if_true]

def readableField (nul : Bool) (field : String × JsonValue) : Bool :=
  readable nul (.str field.1) && readable nul field.2

def jsonMember (field : String × JsonValue) : List Char :=
  '"' :: (field.1.toList.flatMap jsonRune ++ '"' :: ':' :: field.2.encode.toList)

theorem toList_jsonObject (fields : List (String × JsonValue)) :
    (jsonObject fields).toList = '\x7b' :: ([','].intercalate (fields.map jsonMember) ++ ['\x7d']) := by
  have members : (fields.map fun field => jsonString field.1 ++ ":" ++ field.2.encode).map
      String.toList = fields.map jsonMember := by
    rw [List.map_map]
    apply List.map_congr_left
    intro field _
    simp [jsonMember, jsonString]
  simp only [jsonObject, String.toList_append, String.toList_intercalate, members]
  rfl

theorem readMembers_jsonMember (ok : readableField nul field = true)
    (fuel : Nat) (delimiter : c = ',' ∨ c = '\x7d') (rest : List Char) :
    readMembers nul (fuel + 1) (jsonMember field ++ c :: rest) =
      match c :: rest with
      | ['\x7d'] => some [field]
      | ',' :: rest => (readMembers nul fuel rest).map (field :: ·)
      | _ => none := by
  obtain ⟨name, value⟩ := field
  simp only [readableField, Bool.and_eq_true] at ok
  have taken : nul = true ∨ '\x00' ∉ name.toList := by simpa [readable] using ok.1
  have digit : c.isDigit = false := by rcases delimiter with rfl | rfl <;> decide
  have written : jsonMember (name, value) ++ c :: rest =
      '"' :: (name.toList.flatMap jsonRune ++ '"' :: ':' :: (value.encode.toList ++ c :: rest)) := by
    simp [jsonMember]
  rw [written, readMembers]
  simp only [readString_jsonString taken, readValue_encode ok.2 digit, String.ofList_toList]
  rcases delimiter with rfl | rfl
  · rfl
  · cases rest <;> rfl

variable {fields : List (String × JsonValue)}

theorem readMembers_intercalate (some_ : fields ≠ [])
    (ok : ∀ field ∈ fields, readableField nul field = true) (enough : fields.length ≤ fuel) :
    readMembers nul fuel ([','].intercalate (fields.map jsonMember) ++ ['\x7d']) = some fields := by
  induction fields generalizing fuel with
  | nil => exact absurd rfl some_
  | cons field fields ih =>
    obtain ⟨fuel, rfl⟩ : ∃ n, fuel = n + 1 := ⟨fuel - 1, by simp at enough; omega⟩
    have first := ok field List.mem_cons_self
    rcases fields with _ | ⟨next, others⟩
    · rw [List.map_singleton, List.intercalate_singleton]
      exact readMembers_jsonMember first fuel (.inr rfl) []
    have bound : (next :: others).length ≤ fuel := by simpa using enough
    have rest := ih (List.cons_ne_nil _ _)
      (fun other listed => ok other (by simp [listed])) bound
    rw [List.map_cons, List.map_cons, List.intercalate_cons_cons, List.append_assoc,
      List.append_assoc, List.singleton_append, readMembers_jsonMember first fuel (.inl rfl)]
    simp only [← List.map_cons, rest, Option.map_some]

theorem length_le_intercalate (parts : List (List Char)) (full : ∀ part ∈ parts, part ≠ []) :
    parts.length ≤ ([','].intercalate parts).length := by
  induction parts with
  | nil => simp
  | cons part parts ih =>
    have first := List.length_pos_iff.mpr (full part List.mem_cons_self)
    have rest := ih fun other listed => full other (by simp [listed])
    rcases parts with _ | ⟨next, others⟩
    · rw [List.intercalate_singleton]
      exact first
    rw [List.intercalate_cons_cons]
    simp only [List.length_append, List.length_cons, List.length_nil] at rest ⊢
    omega

/-- An object that is written is read back. -/
theorem readObject_jsonObject (ok : ∀ field ∈ fields, readableField nul field = true) :
    readObject nul (jsonObject fields) = some fields := by
  unfold readObject
  rw [toList_jsonObject]
  rcases fields with _ | ⟨field, fields⟩
  · rfl
  have full : ∀ part ∈ (field :: fields).map jsonMember, part ≠ [] := by
    intro part listed
    obtain ⟨other, -, rfl⟩ := List.mem_map.mp listed
    exact List.cons_ne_nil _ _
  have enough : (field :: fields).length ≤
      ([','].intercalate ((field :: fields).map jsonMember) ++ ['\x7d']).length := by
    have bound := length_le_intercalate ((field :: fields).map jsonMember) full
    rw [List.length_append]
    rw [List.length_map] at bound
    omega
  have members : [','].intercalate ((field :: fields).map jsonMember) ++ ['\x7d'] ≠ ['\x7d'] := by
    intro same
    have nothing : [','].intercalate ((field :: fields).map jsonMember) = [] :=
      List.append_cancel_right same
    have bound := length_le_intercalate ((field :: fields).map jsonMember) full
    rw [nothing] at bound
    simp at bound
  simp only [if_neg members]
  exact readMembers_intercalate (List.cons_ne_nil _ _) ok enough

end UmojaFlowOS.Go
