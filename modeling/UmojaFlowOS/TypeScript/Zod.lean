import UmojaFlowOS.TypeScript.Number

/-!
# JSON values and strict schemas

The values that `JSON.parse` gives, and the schemas that the service contracts are made of. A
schema takes a value or refuses it. The combinators are those of the package zod: what is known
of them are the laws of the class `Zod`, on which every proof about a contract rests.
-/

namespace UmojaFlowOS.TypeScript

/-- A JSON value. Numbers that are not integers are told from the others, and not from one
another; an object has each of its keys once. -/
inductive Json where
  | null
  | bool (value : Bool)
  | integer (value : Int)
  | fraction
  | string (text : String)
  | array (items : List Json)
  | object (fields : List (String × Json))

namespace Json

mutual

/-- The value that `JSON.parse` gives for a text in which the integers are written out. -/
def received : Json → Json
  | null => null
  | bool value => bool value
  | integer value => integer (toNumber value)
  | fraction => fraction
  | string text => string text
  | array items => array (receivedItems items)
  | object fields => object (receivedFields fields)

def receivedItems : List Json → List Json
  | [] => []
  | item :: items => item.received :: receivedItems items

def receivedFields : List (String × Json) → List (String × Json)
  | [] => []
  | (key, value) :: fields => (key, value.received) :: receivedFields fields

end

@[simp] theorem receivedItems_eq (items : List Json) :
    receivedItems items = items.map received := by
  induction items with
  | nil => rfl
  | cons item items ih => rw [receivedItems, ih, List.map_cons]

end Json

/-! ## Schemas -/

/-- What a schema makes of a value, if it takes it. -/
abbrev Schema (α : Type) := Json → Option α

/-- The combinators of zod. `.int()` takes safe integers only, `.strict()` refuses an object
with a key that the schema does not name, and a key of the schema is not optional. -/
class Zod where
  /-- `z.boolean()`. -/
  boolean : Schema Bool
  /-- `z.string().min(1)`. -/
  text : Schema String
  /-- `z.literal(expected)`. -/
  literal (expected : String) : Schema String
  /-- `z.enum(values)`, with what its values stand for. -/
  oneOf {α : Type} (values : List (String × α)) : Schema α
  /-- `z.number().int()`. -/
  int : Schema Int
  /-- `z.number().int().min(least)`. -/
  intFrom (least : Int) : Schema Int
  /-- `.nullable()`. -/
  nullable {α : Type} (schema : Schema α) : Schema (Option α)
  /-- `z.array(schema).min(1)`. -/
  nonempty {α : Type} (schema : Schema α) : Schema (List α)
  /-- The fields of a `z.object({...}).strict()` with these keys. -/
  strict (keys : List String) : Schema (List (String × Json))
  /-- The field of an object under one of the keys of its schema. -/
  field {α : Type} (fields : List (String × Json)) (key : String) (schema : Schema α) : Option α
  boolean_bool (value : Bool) : boolean (.bool value) = some value
  text_string (value : String) : text (.string value) = if value = "" then none else some value
  literal_self (expected : String) : literal expected (.string expected) = some expected
  oneOf_string {α : Type} (values : List (String × α)) (value : String) :
    oneOf values (.string value) = values.lookup value
  int_integer (value : Int) :
    int (.integer value) = if isSafeInteger value = true then some value else none
  intFrom_eq (least : Int) (value : Json) :
    intFrom least value =
      (int value).bind fun number => if least ≤ number then some number else none
  nullable_null {α : Type} (schema : Schema α) : nullable schema .null = some none
  nullable_other {α : Type} (schema : Schema α) (value : Json) :
    value ≠ .null → nullable schema value = (schema value).map some
  nonempty_array {α : Type} (schema : Schema α) (items : List Json) :
    items ≠ [] → nonempty schema (.array items) = items.mapM schema
  strict_object (keys : List String) (fields : List (String × Json)) :
    strict keys (.object fields) =
      if fields.all fun field => keys.contains field.1 then some fields else none
  field_eq {α : Type} (fields : List (String × Json)) (key : String) (schema : Schema α) :
    field fields key schema = (fields.lookup key).bind schema

/-- The combinators as zod has them, which refuse all that the laws leave open. -/
@[reducible] def refusing : Zod where
  boolean
    | .bool value => some value
    | _ => none
  text
    | .string value => if value = "" then none else some value
    | _ => none
  literal expected
    | .string value => if value = expected then some value else none
    | _ => none
  oneOf values
    | .string value => values.lookup value
    | _ => none
  int
    | .integer value => if isSafeInteger value then some value else none
    | _ => none
  intFrom least
    | .integer value =>
      if isSafeInteger value then if least ≤ value then some value else none else none
    | _ => none
  nullable schema
    | .null => some none
    | value => (schema value).map some
  nonempty schema
    | .array [] => none
    | .array items => items.mapM schema
    | _ => none
  strict keys
    | .object fields => if fields.all fun field => keys.contains field.1 then some fields else none
    | _ => none
  field fields key schema := (fields.lookup key).bind schema
  boolean_bool _ := rfl
  text_string _ := rfl
  literal_self _ := if_pos rfl
  oneOf_string _ _ := rfl
  int_integer _ := rfl
  intFrom_eq least value := by
    cases value with
    | integer value =>
      dsimp only
      split <;> rfl
    | _ => rfl
  nullable_null _ := rfl
  nullable_other _ value written := by
    cases value with
    | null => exact absurd rfl written
    | _ => rfl
  nonempty_array _ items written := by
    cases items with
    | nil => exact absurd rfl written
    | cons => rfl
  strict_object _ _ := rfl
  field_eq _ _ _ := rfl

namespace Zod

variable [Zod] {α : Type}

/-! ## What is taken -/

@[simp] theorem field_self (key : String) (value : Json) (rest : List (String × Json))
    (schema : Schema α) : field ((key, value) :: rest) key schema = schema value := by
  simp [field_eq]

@[simp] theorem field_other (different : key ≠ other) (value : Json) (rest : List (String × Json))
    (schema : Schema α) : field ((other, value) :: rest) key schema = field rest key schema := by
  simp [field_eq, List.lookup_cons, beq_eq_false_iff_ne.mpr different]

/-- The keys of an object are those of the value it is read from. -/
theorem strict_received (known : (fields.map Prod.fst).all keys.contains = true) :
    strict keys (Json.received (.object fields)) = some (Json.receivedFields fields) := by
  have same : ∀ fields : List (String × Json),
      (Json.receivedFields fields).all (fun field => keys.contains field.1) =
        (fields.map Prod.fst).all keys.contains := by
    intro fields
    induction fields with
    | nil => rfl
    | cons field fields ih =>
      rw [Json.receivedFields, List.all_cons, ih, List.map_cons, List.all_cons]
  rw [Json.received, strict_object, if_pos ((same fields).trans known)]

@[simp] theorem literal_received (expected : String) :
    literal expected (Json.received (.string expected)) = some expected :=
  literal_self expected

/-- An integer is taken where it is safe, and then rounding has not changed it. -/
theorem int_received :
    int (Json.received (.integer n)) = if isSafeInteger n = true then some n else none := by
  rw [Json.received, int_integer, isSafeInteger_toNumber]
  by_cases safe : isSafeInteger n = true
  · rw [if_pos safe, if_pos safe, toNumber_of_safe safe]
  · rw [if_neg safe, if_neg safe]

theorem intFrom_received :
    intFrom least (Json.received (.integer n)) =
      if isSafeInteger n = true ∧ least ≤ n then some n else none := by
  rw [intFrom_eq, int_received]
  by_cases safe : isSafeInteger n = true
  · simp [safe]
  · simp [safe]

end Zod

end UmojaFlowOS.TypeScript
