import UmojaFlowOS.LedgerGateway.Gateway

/-!
# What the control plane takes from the ledger gateway

`parseRustLedgerValidation` and `parseRustLedgerReconciliation`
(`apps/control-plane/server/contracts/services.ts`): strict schemas, and checks that derive
the verdict of the service again from the data that came with it.
-/

namespace UmojaFlowOS.LedgerGateway

open TypeScript Zod

/-- What a parser throws: the error of a schema, or an `Error` with a text. -/
inductive ContractError where
  | schema
  | error (text : String)
  deriving DecidableEq

/-- `FORBIDDEN_EXECUTION_KEYS` (lines 30-43). -/
def forbiddenExecutionKeys : List String :=
  ["execute", "execution_instruction", "settle", "settlement_instruction", "submit",
    "submission_instruction", "file_report", "transfer", "transfer_instruction",
    "provider_credential", "credential", "api_key"]

/-- `text.toLowerCase()`, as far as ASCII is concerned: of all other characters only the Kelvin
sign has a lower case in it. -/
def toLowerCase (text : String) : String :=
  String.ofList (text.toList.map fun c => if c.toNat = 0x212A then 'k' else c.toLower)

mutual

/-- `assertNoExecutionAuthority` (lines 49-64), with the path of the first key that is
refused. -/
def executionKey (path : String) : Json → Option String
  | .array items => executionKeyIn path 0 items
  | .object fields => executionKeyOf path fields
  | _ => none

def executionKeyIn (path : String) (index : Nat) : List Json → Option String
  | [] => none
  | item :: items =>
    (executionKey (path ++ "[" ++ Nat.repr index ++ "]") item).or
      (executionKeyIn path (index + 1) items)

def executionKeyOf (path : String) : List (String × Json) → Option String
  | [] => none
  | (key, nested) :: fields =>
    if forbiddenExecutionKeys.contains (toLowerCase key) then some (path ++ "." ++ key)
    else (executionKey (path ++ "." ++ key) nested).or (executionKeyOf path fields)

end

def assertNoExecutionAuthority (input : Json) : Except ContractError Unit :=
  match executionKey "$" input with
  | some key => .error (.error ("service contract violation at " ++ key ++
      ": service outputs must not carry execution authority or credentials"))
  | none => .ok ()

def allowedKey (key : String) : Bool := !forbiddenExecutionKeys.contains (toLowerCase key)

/-- An object at some depth has a key that is a forbidden one but for case. -/
inductive CarriesAuthority : Json → Prop
  | key {fields : List (String × Json)} {field : String × Json} {name : String} :
      field ∈ fields → name ∈ forbiddenExecutionKeys → toLowerCase field.1 = toLowerCase name →
      CarriesAuthority (.object fields)
  | field {fields : List (String × Json)} {field : String × Json} :
      field ∈ fields → CarriesAuthority field.2 → CarriesAuthority (.object fields)
  | item {items : List Json} {item : Json} :
      item ∈ items → CarriesAuthority item → CarriesAuthority (.array items)

theorem allowedKey_eq_false_iff : allowedKey key = false ↔
    ∃ name ∈ forbiddenExecutionKeys, toLowerCase key = toLowerCase name := by
  have lower : ∀ name ∈ forbiddenExecutionKeys, toLowerCase name = name := by decide
  simp only [allowedKey, Bool.not_eq_false', List.contains_iff_mem]
  constructor
  · intro member
    exact ⟨_, member, (lower _ member).symm⟩
  · rintro ⟨name, member, same⟩
    rwa [same, lower name member]

@[simp] theorem not_carries_null : ¬ CarriesAuthority .null := by rintro ⟨⟩

@[simp] theorem not_carries_bool : ¬ CarriesAuthority (.bool b) := by rintro ⟨⟩

@[simp] theorem not_carries_integer : ¬ CarriesAuthority (.integer n) := by rintro ⟨⟩

@[simp] theorem not_carries_fraction : ¬ CarriesAuthority .fraction := by rintro ⟨⟩

@[simp] theorem not_carries_string : ¬ CarriesAuthority (.string s) := by rintro ⟨⟩

theorem carries_array_iff :
    CarriesAuthority (.array items) ↔ ∃ item ∈ items, CarriesAuthority item := by
  constructor
  · rintro (_ | _ | ⟨member, carries⟩)
    exact ⟨_, member, carries⟩
  · rintro ⟨item, member, carries⟩
    exact .item member carries

theorem carries_object_iff : CarriesAuthority (.object fields) ↔
    ∃ field ∈ fields, allowedKey field.1 = false ∨ CarriesAuthority field.2 := by
  constructor
  · rintro (⟨member, name, same⟩ | ⟨member, carries⟩ | _)
    · exact ⟨_, member, .inl (allowedKey_eq_false_iff.mpr ⟨_, name, same⟩)⟩
    · exact ⟨_, member, .inr carries⟩
  rintro ⟨field, member, forbidden | carries⟩
  · obtain ⟨name, listed, same⟩ := allowedKey_eq_false_iff.mp forbidden
    exact .key member listed same
  · exact .field member carries

mutual

theorem executionKey_eq_none (path : String) :
    ∀ value, executionKey path value = none ↔ ¬ CarriesAuthority value
  | .array items => by
    rw [executionKey, executionKeyIn_eq_none path 0 items, carries_array_iff]
    simp
  | .object fields => by
    rw [executionKey, executionKeyOf_eq_none path fields, carries_object_iff]
    simp
  | .null | .bool _ | .integer _ | .fraction | .string _ => by simp [executionKey]

theorem executionKeyIn_eq_none (path : String) (index : Nat) :
    ∀ items, executionKeyIn path index items = none ↔ ∀ item ∈ items, ¬ CarriesAuthority item
  | [] => by simp [executionKeyIn]
  | item :: items => by
    rw [executionKeyIn, Option.or_eq_none_iff, executionKey_eq_none _ item,
      executionKeyIn_eq_none path _ items, List.forall_mem_cons]

theorem executionKeyOf_eq_none (path : String) : ∀ fields, executionKeyOf path fields = none ↔
    ∀ field ∈ fields, allowedKey field.1 = true ∧ ¬ CarriesAuthority field.2
  | [] => by simp [executionKeyOf]
  | (key, nested) :: fields => by
    rw [executionKeyOf, List.forall_mem_cons, ← executionKeyOf_eq_none path fields,
      ← executionKey_eq_none (path ++ "." ++ key) nested]
    by_cases forbidden : toLowerCase key ∈ forbiddenExecutionKeys <;> simp [allowedKey, forbidden]

end

theorem object_without_authority (keys : (fields.map Prod.fst).all allowedKey = true)
    (nested : ∀ field ∈ fields, ¬ CarriesAuthority field.2) :
    ¬ CarriesAuthority (.object fields) := by
  rw [carries_object_iff]
  rintro ⟨field, member, forbidden | carries⟩
  · have allowed := List.all_eq_true.mp keys field.1 (List.mem_map_of_mem member)
    exact absurd (allowed.symm.trans forbidden) nofun
  · exact nested field member carries

theorem assert_ok (harmless : ¬ CarriesAuthority value) :
    assertNoExecutionAuthority value = .ok () := by
  rw [assertNoExecutionAuthority, (executionKey_eq_none "$" value).mpr harmless]

/-- Every value is refused that has a forbidden key at some depth, and no other. -/
theorem refused_iff_carries_authority (value : Json) :
    (∃ err, assertNoExecutionAuthority value = .error err) ↔ CarriesAuthority value := by
  rw [← not_iff_not, ← executionKey_eq_none "$" value, assertNoExecutionAuthority]
  cases executionKey "$" value <;> simp

def parse {α : Type} (schema : Schema α) (input : Json) : Except ContractError α :=
  (schema input).elim (.error .schema) .ok

/-! ## Validation of postings -/

section
variable [Zod]

/-- `rustLedgerPostingSchema` (lines 355-364). -/
def postingSchema : Schema Posting := fun value => do
  let fields ← strict ["account_id", "currency", "debit_minor", "credit_minor"] value
  let accountID ← field fields "account_id" text
  let currency ← field fields "currency" text
  let debitMinor ← field fields "debit_minor" (intFrom 0)
  let creditMinor ← field fields "credit_minor" (intFrom 0)
  return ⟨accountID, currency, debitMinor, creditMinor⟩

def imbalanceSchema : Schema (String × Int) := fun value => do
  let fields ← strict ["currency", "net_minor"] value
  let currency ← field fields "currency" text
  let netMinor ← field fields "net_minor" int
  return (currency, netMinor)

/-- `RustLedgerValidation`, without its constant fields. -/
structure LedgerValidation where
  postings : List Posting
  balanced : Bool
  imbalance : Option (String × Int)
  deriving DecidableEq

/-- `rustLedgerValidationSchema` (lines 366-380). -/
def validationSchema : Schema LedgerValidation := fun value => do
  let fields ← strict
    ["service", "contract_version", "envelope_type", "postings", "balanced", "imbalance"] value
  let _ ← field fields "service" (literal "umojaflowos-ledger-gateway")
  let _ ← field fields "contract_version" (literal "v1")
  let _ ← field fields "envelope_type" (literal "umojaflowos.ledger.posting_validation.v1")
  let postings ← field fields "postings" (nonempty postingSchema)
  let balanced ← field fields "balanced" boolean
  let imbalance ← field fields "imbalance" (nullable imbalanceSchema)
  return ⟨postings, balanced, imbalance⟩

/-- `map.set(key, value)` on a `Map`, in the order of insertion. -/
def setEntry (key : String) (value : Int) : List (String × Int) → List (String × Int)
  | [] => [(key, value)]
  | entry :: entries =>
    if entry.1 = key then (key, value) :: entries else entry :: setEntry key value entries

/-- The loop that derives the nets (lines 394-398). -/
def netByCurrency (nets : List (String × Int)) : List Posting → List (String × Int)
  | [] => nets
  | posting :: postings =>
    let current := (nets.lookup posting.currency).getD 0
    netByCurrency (setEntry posting.currency
      (sub (TypeScript.add current posting.debitMinor) posting.creditMinor) nets) postings

/-- `parseRustLedgerValidation` (lines 390-425). -/
def parseRustLedgerValidation (input : Json) : Except ContractError LedgerValidation := do
  assertNoExecutionAuthority input
  let envelope ← parse validationSchema input
  let nets := netByCurrency [] envelope.postings
  let derivedBalanced := (nets.filter fun entry => entry.2 ≠ 0).isEmpty
  if derivedBalanced ≠ envelope.balanced then
    .error (.error ("ledger validation claims balanced=" ++ toString envelope.balanced ++
      " but the supplied postings derive balanced=" ++ toString derivedBalanced))
  else if envelope.balanced = false ∧ envelope.imbalance = none then
    .error (.error "an unbalanced posting set must name the offending currency and net amount")
  else if envelope.balanced = true ∧ envelope.imbalance ≠ none then
    .error (.error "a balanced posting set must not report an imbalance")
  else
    match envelope.imbalance with
    | some (currency, netMinor) =>
      if nets.lookup currency ≠ some netMinor then
        .error (.error ("reported imbalance for " ++ currency ++
          " does not match the supplied postings"))
      else .ok envelope
    | none => .ok envelope

end

/-! ## Reconciliation of a projection -/

structure ContractRecord where
  transferID : Int
  correlationID : String
  currency : String
  amountMinor : Int
  timestamp : String

/-- `RustLedgerReconciliation`, without its constant fields. -/
structure LedgerReconciliation where
  confirmedFact : ContractRecord
  projection : ContractRecord
  reconciled : Bool
  discrepancyReason : Option ReconciliationError

section
-- `z.string().datetime({ offset: true })`: any test of a text will do.
variable [Zod] (isDatetime : String → Bool)

def datetime : Schema String
  | .string value => if isDatetime value then some value else none
  | _ => none

/-- The two objects of `rustLedgerReconciliationSchema` (lines 432-449), which differ in
the name of the timestamp. -/
def recordSchema (timestampKey : String) : Schema ContractRecord := fun value => do
  let fields ← strict
    ["transfer_id", "correlation_id", "currency", "amount_minor", timestampKey] value
  let transferID ← field fields "transfer_id" (intFrom 1)
  let correlationID ← field fields "correlation_id" text
  let currency ← field fields "currency" text
  let amountMinor ← field fields "amount_minor" (intFrom 1)
  let timestamp ← field fields timestampKey (datetime isDatetime)
  return ⟨transferID, correlationID, currency, amountMinor, timestamp⟩

/-- `rustLedgerReconciliationSchema` (lines 427-455). -/
def reconciliationSchema : Schema LedgerReconciliation := fun value => do
  let fields ← strict ["service", "contract_version", "envelope_type", "confirmed_fact",
    "projection", "reconciled", "discrepancy_reason"] value
  let _ ← field fields "service" (literal "umojaflowos-ledger-gateway")
  let _ ← field fields "contract_version" (literal "v1")
  let _ ← field fields "envelope_type" (literal "umojaflowos.ledger.projection_reconciliation.v1")
  let confirmedFact ← field fields "confirmed_fact" (recordSchema isDatetime "posted_at")
  let projection ← field fields "projection" (recordSchema isDatetime "projected_at")
  let reconciled ← field fields "reconciled" boolean
  let discrepancyReason ← field fields "discrepancy_reason" (nullable (oneOf
    [("INCOMPLETE_CONFIRMED_FACT", .incompleteConfirmedFact),
      ("INCOMPLETE_PROJECTION", .incompleteProjection), ("MISMATCH", .mismatch)]))
  return ⟨confirmedFact, projection, reconciled, discrepancyReason⟩

/-- The comparison of the parser (lines 471-475). -/
def ContractRecord.agrees (fact projection : ContractRecord) : Bool :=
  fact.transferID = projection.transferID && fact.correlationID = projection.correlationID &&
    fact.currency = projection.currency && fact.amountMinor = projection.amountMinor

/-- `parseRustLedgerReconciliation` (lines 466-492). -/
def parseRustLedgerReconciliation (input : Json) : Except ContractError LedgerReconciliation := do
  assertNoExecutionAuthority input
  let envelope ← parse (reconciliationSchema isDatetime) input
  let agrees := envelope.confirmedFact.agrees envelope.projection
  if envelope.reconciled = true ∧ agrees = false then
    .error (.error
      "ledger reconciliation claims agreement while the confirmed fact and projection differ")
  else if envelope.reconciled = false ∧ envelope.discrepancyReason = none then
    .error (.error "a failed reconciliation must state its discrepancy reason")
  else if envelope.reconciled = true ∧ envelope.discrepancyReason ≠ none then
    .error (.error "a successful reconciliation must not report a discrepancy reason")
  else if envelope.reconciled = false ∧ envelope.discrepancyReason = some .mismatch ∧
      agrees = true then
    .error (.error "a mismatch was reported but the supplied records agree")
  else .ok envelope

end

end UmojaFlowOS.LedgerGateway
