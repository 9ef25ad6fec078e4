import UmojaFlowOS.Go.Errors
import UmojaFlowOS.Go.Strings

/-!
# Columns, parameters and scans

What `database/sql` and PostgreSQL do between a Go value and a column: a `Scan`
needs one destination for each column of the row and fills them in order, and an
integer sent as a parameter must lie in the range of the type the server gives
that parameter.
-/

namespace UmojaFlowOS.Relational

/-- A column of a row as the driver hands it to `Scan`. -/
inductive Column where
  | null
  | text (value : String)
  | int (value : Int)
  | time (value : Int)

/-! ## Scans -/

section
variable {σ : Type}

/-- A destination of `Scan`: what storing a column does to the value being filled. -/
abbrev Destination (σ : Type) := Column → σ → Except GoError σ

def unsupported (column : Column) (type : String) : GoError :=
  let kind := match column with
    | .null => "NULL"
    | .text _ => "string"
    | .int _ => "int64"
    | .time _ => "time.Time"
  .new ("converting " ++ kind ++ " to " ++ type ++ " is unsupported")

def intoString (store : String → σ → σ) : Destination σ
  | .text value, out => .ok (store value out)
  | column, _ => .error (unsupported column "string")

/-- A destination of type `int64`. -/
def intoInt64 (store : Int → σ → σ) : Destination σ
  | .int value, out => .ok (store value out)
  | column, _ => .error (unsupported column "int64")

/-- A destination of type `sql.NullInt64`. -/
def intoNullInt64 (store : Option Int → σ → σ) : Destination σ
  | .null, out => .ok (store none out)
  | .int value, out => .ok (store (some value) out)
  | column, _ => .error (unsupported column "int64")

def intoTime (store : Int → σ → σ) : Destination σ
  | .time value, out => .ok (store value out)
  | column, _ => .error (unsupported column "time.Time")

def intoNullTime (store : Option Int → σ → σ) : Destination σ
  | .null, out => .ok (store none out)
  | .time value, out => .ok (store (some value) out)
  | column, _ => .error (unsupported column "time.Time")

/-- The destinations filled one after the other. -/
def fill : List (Destination σ) → List Column → σ → Except GoError σ
  | destination :: destinations, column :: columns, out =>
    (destination column out).bind (fill destinations columns)
  | _, _, out => .ok out

def scan (destinations : List (Destination σ)) (columns : List Column) (out : σ) :
    Except GoError σ :=
  if columns.length = destinations.length then fill destinations columns out
  else .error (.new ("sql: expected " ++ Nat.repr columns.length ++
    " destination arguments in Scan, not " ++ Nat.repr destinations.length))

theorem scan_of_length_ne (different : columns.length ≠ destinations.length) :
    scan destinations columns out = .error (.new ("sql: expected " ++ Nat.repr columns.length ++
      " destination arguments in Scan, not " ++ Nat.repr destinations.length)) :=
  if_neg different

end

/-! ## Integer parameters -/

inductive IntType where
  | integer
  | bigint

namespace IntType

def name : IntType → String
  | integer => "integer"
  | bigint => "bigint"

/-- The first value above the range of the type. -/
def bound : IntType → Nat
  | integer => 2 ^ 31
  | bigint => 2 ^ 63

/-- What the server does with an integer it reads as a value of the type. -/
def read (type : IntType) (value : Int) : Except GoError Int :=
  if -type.bound ≤ value ∧ value < type.bound then .ok value
  else .error (.database ("value \"" ++ toString value ++ "\" is out of range for type " ++
    type.name))

theorem bound_le (type : IntType) : type.bound ≤ 2 ^ 63 := by
  cases type <;> decide

theorem read_of_lt {type : IntType} {value : UInt64} (fits : value.toNat < type.bound) :
    type.read value.toNat = .ok value.toNat := by
  have inside : -(type.bound : Int) ≤ value.toNat ∧ (value.toNat : Int) < type.bound := by omega
  exact if_pos inside

theorem read_of_le {type : IntType} {value : UInt64} (large : type.bound ≤ value.toNat) :
    ∃ err, type.read value.toNat = .error err := by
  have outside : ¬ (-(type.bound : Int) ≤ value.toNat ∧ (value.toNat : Int) < type.bound) := by
    omega
  exact ⟨_, if_neg outside⟩

end IntType

/-- An argument of type `uint64` as the default converter of `database/sql` hands
it to the driver. -/
def uint64Argument (position : Nat) (value : UInt64) : Except GoError Int :=
  if value.toNat < 2 ^ 63 then .ok value.toNat
  else .error (.inContext ("sql: converting argument $" ++ Nat.repr position ++ " type")
    (.new "uint64 values with high bit set are not supported"))

/-- The value of a `uint64` argument on the server, where its parameter has the type. -/
def uint64Parameter (type : IntType) (position : Nat) (value : UInt64) : Except GoError Int :=
  (uint64Argument position value).bind type.read

theorem uint64Parameter_of_lt {type : IntType} (position : Nat) (fits : value.toNat < type.bound) :
    uint64Parameter type position value = .ok value.toNat := by
  have signed : value.toNat < 2 ^ 63 := fits.trans_le type.bound_le
  unfold uint64Parameter uint64Argument
  rw [if_pos signed]
  exact IntType.read_of_lt fits

theorem uint64Parameter_of_le {type : IntType} (position : Nat) (large : type.bound ≤ value.toNat) :
    ∃ err, uint64Parameter type position value = .error err := by
  unfold uint64Parameter uint64Argument
  by_cases signed : value.toNat < 2 ^ 63
  · rw [if_pos signed]
    exact IntType.read_of_le large
  · rw [if_neg signed]
    exact ⟨_, rfl⟩

/-- `NULLIF(value, 0)`. -/
def nullifZero (value : Int) : Column := if value = 0 then .null else .int value

/-- A non-NULL positive value of a `sql.NullInt64`, and 0 otherwise. -/
def positive (column : Option Int) : UInt64 :=
  match column with
  | some value => if 0 < value then UInt64.ofNat value.toNat else 0
  | none => 0

theorem positive_some (value : UInt64) : positive (some value.toNat) = value := by
  unfold positive
  split
  · rename_i column found
    cases found
    split
    · rw [Int.toNat_natCast, UInt64.ofNat_toNat]
    rename_i notPositive
    have zero : value.toNat = 0 := by omega
    exact (UInt64.toNat_inj.mp zero).symm
  · rename_i nothing
    exact absurd nothing (by simp)

end UmojaFlowOS.Relational
