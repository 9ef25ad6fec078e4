import UmojaFlowOS.Go.Json
import UmojaFlowOS.Settlement.Statements

/-!
# The PostgreSQL saga store

The `SagaStore` methods of `PostgresSagaStore` (`internal/settlement/postgres_saga.go`)
as programs over their SQL statements. Every method is the sequence of statements
of the Go method with its checks between them, and ends with the deferred
rollback, which does nothing after a commit.
-/

namespace UmojaFlowOS.Settlement.PostgresSagaStore

open Go Crypto

/-- `validateReservedIntent` (lines 231-239). -/
def validateReservedIntent (now : Time) (intent : Intent) (digest : String) : Option GoError :=
  match validateIntent now intent with
  | some err => some err
  | none => if validDigest digest then none else some (.new "canonical payload SHA-256 is required")

/-- `tx` with the deferred rollback (lines 135-151): `body` runs in
a transaction bound to the tenant. -/
def withTx {α : Type} (tenantID : String) (failed : GoError → α) (body : Sql α) : Sql α := do
  if trimSpace tenantID = "" then
    return failed (.new "tenant id is required")
  match ← run (.beginTx tenantID) with
  | .error err => return failed err
  | .ok _ =>
    let result ← body
    rollback
    return result

section
variable (record : SettlementRecord)

/-- The transition row of `insertTransitionAndOutbox` (lines 469-473). -/
def transitionRow (source target : ExecutionStage) (reason : String) :
    TransitionRow :=
  { tenantID := record.tenantID
    sagaID := record.sagaID
    version := record.version
    source := source
    target := target
    reason := reason
    payloadSHA256 := record.payloadSHA256
    createdAt := record.updatedAt }

/-- The event body (lines 476-480). -/
def eventPayload : String :=
  jsonObject [("intent_id", .str record.intentID), ("payload_sha256", .str record.payloadSHA256),
    ("reconciliation_run_id", .str record.reconciliationRunID), ("saga_id", .str record.sagaID),
    ("schema_version", .str "v1"), ("stage", .str record.stage.text),
    ("tenant_id", .str record.tenantID), ("version", .num record.version)]

theorem textOk_eventPayload : textOk (eventPayload record) = true := by
  simpa [textOk, eventPayload] using nul_notMem_jsonObject _

/-- The outbox row of `insertTransitionAndOutbox` (lines 484-489). -/
def outboxRow : OutboxRow :=
  { tenantID := record.tenantID
    eventID := sagaEventID record.sagaID record.version
    sagaID := record.sagaID
    stage := record.stage
    eventType := "umojaflowos.settlement.saga-transition.v1"
    payload := eventPayload record
    payloadSHA256 := hexEncode (sha256 (bytes (eventPayload record)))
    reconciliationRunID := record.reconciliationRunID
    availableAt := record.updatedAt
    payloadOk := textOk_eventPayload record
    digestOk := validDigest_payloadDigest (bytes (eventPayload record)) }

/-- `insertTransitionAndOutbox` (lines 468-494). -/
def insertTransitionAndOutbox (source target : ExecutionStage)
    (reason : String) : Sql (Option GoError) := do
  match ← run (.insertTransition (transitionRow record source target reason)) with
  | .error err => return some (.inContext "record saga transition" err)
  | .ok _ =>
    match ← run (.insertOutbox (outboxRow record)) with
    | .error err => return some (.inContext "write settlement outbox" err)
    | .ok _ => return none

end

/-- The row `Reserve` inserts (lines 251-260). -/
def reservedRecord (intent : Intent) (digest : String) (now : Time) : SettlementRecord :=
  { tenantID := intent.tenantID
    sagaID := sagaID intent.tenantID intent.idempotencyKey digest
    intentID := intent.id
    idempotencyKey := intent.idempotencyKey
    payloadSHA256 := digest
    direction := intent.direction
    asset := intent.asset
    fiat := intent.fiat
    amountMinor := intent.amountMinor
    destination := intent.destination
    stage := .received
    version := 1
    createdAt := now
    updatedAt := now }

/-- The transaction of `Reserve` (lines 251-284), with `scanned` for the scan of the row the
`INSERT` returned. -/
def reserveTxWith (scanned : SettlementRecord → Except GoError SettlementRecord) (intent : Intent)
    (digest : String) : Sql (SettlementRecord × Bool × Option GoError) := do
  let now ← clock
  match ← run (.insertSaga (reservedRecord intent digest now)) with
  | .error err => return ({}, false, some err)
  | .ok returned =>
    match returned.elim (.error .noRows) scanned with
    | .ok record =>
      if let some err ← insertTransitionAndOutbox record .unset .received "intent reserved" then
        return ({}, false, some err)
      match ← run .commit with
      | .error err => return ({}, false, some err)
      | .ok _ => return (record, true, none)
    | .error .noRows =>
      match ← run (.selectSagaForUpdate intent.tenantID intent.idempotencyKey) with
      | .error err => return ({}, false, some err)
      | .ok record =>
        if record.intentID ≠ intent.id ∨ record.payloadSHA256 ≠ digest then
          return ({}, false, some .sagaPayloadChanged)
        match ← run .commit with
        | .error err => return ({}, false, some err)
        | .ok _ => return (record, false, none)
    | .error err => return ({}, false, some err)

/-- The same where every scan delivers the row. -/
def reserveTx (intent : Intent) (digest : String) :
    Sql (SettlementRecord × Bool × Option GoError) :=
  reserveTxWith .ok intent digest

/-- `Reserve` (lines 241-285). -/
def reserve (intent : Intent) (digest : String) :
    Sql (SettlementRecord × Bool × Option GoError) := do
  let now ← clock
  if let some err := validateReservedIntent now intent digest then
    return ({}, false, some err)
  withTx intent.tenantID (fun err => ({}, false, some err)) (reserveTx intent digest)

/-- The transaction of `Load` (lines 349-363). -/
def loadTx (tenantID idempotencyKey : String) : Sql (SettlementRecord × Option GoError) := do
  match ← run (.selectSagaForUpdate tenantID idempotencyKey) with
  | .error err => return ({}, some err)
  | .ok record =>
    match ← run .commit with
    | .error err => return ({}, some err)
    | .ok _ => return (record, none)

/-- `Load` (lines 349-363). -/
def load (tenantID idempotencyKey : String) : Sql (SettlementRecord × Option GoError) :=
  withTx tenantID (fun err => ({}, some err)) (loadTx tenantID idempotencyKey)

/-- The transaction of `Advance` (lines 417-449). -/
def advanceTx (current : SettlementRecord) (next : ExecutionStage) (update : SagaUpdate) :
    Sql (SettlementRecord × Option GoError) := do
  match ← run (.selectSagaForUpdate current.tenantID current.idempotencyKey) with
  | .error err => return ({}, some err)
  | .ok locked =>
    if locked.sagaID ≠ current.sagaID ∨ locked.payloadSHA256 ≠ current.payloadSHA256 ∨
        locked.version ≠ current.version ∨ locked.stage ≠ current.stage then
      return ({}, some .sagaConflict)
    let now ← clock
    let nextRecord := recordWithUpdate locked next update now
    match ← run (.updateSaga nextRecord current.tenantID current.sagaID current.version
      current.stage) with
    | .error err => return ({}, some err)
    | .ok affected =>
      if affected ≠ 1 then
        return ({}, some .sagaConflict)
      if let some err ← insertTransitionAndOutbox nextRecord current.stage next update.reason then
        return ({}, some err)
      match ← run .commit with
      | .error err => return ({}, some err)
      | .ok _ => return (nextRecord, none)

/-- `Advance` (lines 403-450). -/
def advance (current : SettlementRecord) (next : ExecutionStage) (update : SagaUpdate) :
    Sql (SettlementRecord × Option GoError) := do
  if trimSpace current.tenantID = "" ∨ trimSpace current.idempotencyKey = "" ∨
      current.version = 0 then
    return ({}, some (.new "tenant, idempotency key, and saga version are required"))
  if ¬ stageAllowsRecord current next then
    if terminalStage current.stage then
      return ({}, some .sagaTerminal)
    return ({}, some (.wrap "" .sagaConflict (": " ++ current.stage.text ++ " -> " ++ next.text)))
  withTx current.tenantID (fun err => ({}, some err)) (advanceTx current next update)

/-- `MarkHeld` (lines 452-458). -/
def markHeld (record : SettlementRecord) (reason : String) : Sql (Option GoError) := do
  if record.stage = .held then
    return none
  let (_, err) ← advance record .held { failureClass := "held", reason := reason }
  return err

/-- `MarkUnknown` (lines 460-466). -/
def markUnknown (record : SettlementRecord) (reason : String) : Sql (Option GoError) := do
  if record.stage = .unknown then
    return none
  let (_, err) ← advance record .unknown { failureClass := "unknown", reason := reason }
  return err

end UmojaFlowOS.Settlement.PostgresSagaStore
