import UmojaFlowOS.Go.Json

/-!
# Flat JSON objects in `jsonb` columns

PostgreSQL reads the text written to a `jsonb` column, keeps the value, and gives
back a text of its own: the keys by length and then by bytes, of equal keys only the
last, a blank after every colon and comma, and only what JSON requires escaped. An
escaped NUL is refused.
-/

namespace UmojaFlowOS.Relational

open Go

/-! ## Writing a value -/

/-- One character of a string as `escape_json` writes it. -/
def jsonbRune : Char → List Char := escapeRune fun c => c.toNat < 0x20

def jsonbString (s : String) : String :=
  "\"" ++ String.ofList (s.toList.flatMap jsonbRune) ++ "\""

def jsonbValue : JsonValue → String
  | .str text => jsonbString text
  | .num value => Nat.repr value

/-- Shorter keys first, keys of one length by their bytes. -/
def keyBefore (first second : String) : Bool :=
  first.utf8ByteSize < second.utf8ByteSize ||
    (first.utf8ByteSize = second.utf8ByteSize && first < second)

/-- A field put in its place; it replaces an earlier one with its key. -/
def insertField (field : String × JsonValue) :
    List (String × JsonValue) → List (String × JsonValue)
  | [] => [field]
  | first :: rest =>
    if field.1 = first.1 then field :: rest
    else if keyBefore field.1 first.1 then field :: first :: rest
    else first :: insertField field rest

section
variable (fields : List (String × JsonValue))

def normalised : List (String × JsonValue) :=
  fields.foldl (fun placed field => insertField field placed) []

/-- The text of an object that a `jsonb` column gives back. -/
def jsonbText : String :=
  "\x7b" ++ String.intercalate ", " ((normalised fields).map fun field =>
    jsonbString field.1 ++ ": " ++ jsonbValue field.2) ++ "\x7d"

/-- The text a `jsonb` column gives back for the text that was written to it. -/
def storedText (text : String) : Option String := (readObject false text).map jsonbText

end

theorem storedText_jsonObject (ok : ∀ field ∈ fields, readableField false field = true) :
    storedText (jsonObject fields) = some (jsonbText fields) := by
  rw [storedText, readObject_jsonObject ok, Option.map_some]

def storedMember (field : String × JsonValue) : List Char :=
  '"' :: (field.1.toList.flatMap jsonbRune ++ '"' :: ':' :: ' ' :: (jsonbValue field.2).toList)

theorem toList_jsonbText (fields : List (String × JsonValue)) :
    (jsonbText fields).toList =
      '\x7b' :: ([',', ' '].intercalate ((normalised fields).map storedMember) ++ ['\x7d']) := by
  have members : ((normalised fields).map fun field =>
      jsonbString field.1 ++ ": " ++ jsonbValue field.2).map String.toList =
      (normalised fields).map storedMember := by
    rw [List.map_map]
    apply List.map_congr_left
    intro field _
    simp [storedMember, jsonbString]
  simp only [jsonbText, String.toList_append, String.toList_intercalate, members]
  rfl

end UmojaFlowOS.Relational
