import UmojaFlowOS.Settlement.Intent

/-!
# Saga records and their stages

`ExecutionStage`, `SettlementRecord`, `SagaUpdate` and the pure transition
checks of `internal/settlement/postgres_saga.go`.
-/

namespace UmojaFlowOS.Settlement

open Go Crypto

/-- `ExecutionStage` (lines 18-34); `unset` is the empty string of a
zero record. -/
inductive ExecutionStage where
  | unset
  | received
  | screened
  | routed
  | liquidityReserved
  | ledgerPrepared
  | fiatSubmitted
  | custodySubmitted
  | finalityConfirmed
  | ledgerCommitted
  | attestationVerified
  | settled
  | held
  | unknown
  deriving DecidableEq

def ExecutionStage.text : ExecutionStage → String
  | unset => ""
  | received => "received"
  | screened => "screened"
  | routed => "routed"
  | liquidityReserved => "liquidity_reserved"
  | ledgerPrepared => "ledger_prepared"
  | fiatSubmitted => "fiat_submitted"
  | custodySubmitted => "custody_submitted"
  | finalityConfirmed => "finality_confirmed"
  | ledgerCommitted => "ledger_committed"
  | attestationVerified => "attestation_verified"
  | settled => "settled"
  | held => "held"
  | unknown => "unknown"

/-- `SettlementRecord` (lines 46-71). The defaults are Go's zero
values, so `{}` is the record a failed store call returns. -/
structure SettlementRecord where
  tenantID : String := ""
  sagaID : String := ""
  intentID : String := ""
  idempotencyKey : String := ""
  payloadSHA256 : String := ""
  direction : Direction := .other ""
  asset : String := ""
  fiat : String := ""
  amountMinor : Int64 := 0
  destination : String := ""
  stage : ExecutionStage := .unset
  routeID : String := ""
  providerReference : String := ""
  custodyReference : String := ""
  blockchainTx : String := ""
  ledgerPendingID : UInt64 := 0
  ledgerTransferID : UInt64 := 0
  attestationID : String := ""
  failureClass : String := ""
  reconciliationRunID : String := ""
  version : Nat := 0
  createdAt : Time := 0
  updatedAt : Time := 0
  terminalAt : Option Time := none
  deriving DecidableEq

/-- `SagaUpdate` (lines 77-88). -/
structure SagaUpdate where
  routeID : String := ""
  providerReference : String := ""
  custodyReference : String := ""
  blockchainTx : String := ""
  ledgerPendingID : UInt64 := 0
  ledgerTransferID : UInt64 := 0
  attestationID : String := ""
  failureClass : String := ""
  reconciliationRunID : String := ""
  reason : String := ""
  deriving DecidableEq

/-- `sagaID` (lines 165-168). -/
def sagaID (tenantID idempotencyKey payloadSHA256 : String) : String :=
  hexEncode (sha256 (bytes (tenantID ++ "\x00" ++ idempotencyKey ++ "\x00" ++ payloadSHA256)))

/-- `sagaEventID` (lines 170-173). -/
def sagaEventID (sagaID : String) (version : Nat) : String :=
  hexEncode (sha256 (bytes (sagaID ++ "\x00" ++ Nat.repr version)))

/-- `terminalStage` (lines 227-229). -/
def terminalStage (stage : ExecutionStage) : Bool :=
  stage = .settled || stage = .held || stage = .unknown

/-- `stageAllows` (lines 175-203). -/
def stageAllows (source target : ExecutionStage) : Bool :=
  if target = .held || target = .unknown then
    source ≠ .settled && source ≠ .held && source ≠ .unknown
  else
    match source with
    | .received => target = .screened
    | .screened => target = .routed
    | .routed => target = .liquidityReserved
    | .liquidityReserved => target = .ledgerPrepared
    | .ledgerPrepared => target = .fiatSubmitted || target = .custodySubmitted
    | .fiatSubmitted => target = .custodySubmitted
    | .custodySubmitted => target = .finalityConfirmed || target = .fiatSubmitted
    | .finalityConfirmed => target = .ledgerCommitted || target = .fiatSubmitted
    | .ledgerCommitted => target = .attestationVerified
    | .attestationVerified => target = .settled
    | _ => false

/-- `stageAllowsRecord` (lines 208-225). -/
def stageAllowsRecord (record : SettlementRecord) (target : ExecutionStage) : Bool :=
  if record.stage = .ledgerPrepared then
    (record.direction = .onramp && target = .fiatSubmitted) ||
      (record.direction = .offramp && target = .custodySubmitted) ||
      target = .held || target = .unknown
  else if record.stage = .fiatSubmitted && target = .ledgerCommitted then
    record.direction = .offramp && record.custodyReference ≠ "" && record.blockchainTx ≠ ""
  else if record.stage = .fiatSubmitted && target = .custodySubmitted then
    record.direction = .onramp
  else if record.stage = .finalityConfirmed && target = .ledgerCommitted then
    record.direction = .onramp
  else if record.stage = .finalityConfirmed && target = .fiatSubmitted then
    record.direction = .offramp
  else
    stageAllows record.stage target

/-- A non-empty update replaces the stored value. -/
def supplied (update stored : String) : String := if update ≠ "" then update else stored

/-- A non-zero identifier replaces the stored one. -/
def suppliedID (update stored : UInt64) : UInt64 := if update ≠ 0 then update else stored

/-- `recordWithUpdate` (lines 365-401). -/
def recordWithUpdate (record : SettlementRecord) (stage : ExecutionStage) (update : SagaUpdate)
    (now : Time) : SettlementRecord :=
  { record with
    stage := stage
    version := record.version + 1
    updatedAt := now
    routeID := supplied update.routeID record.routeID
    providerReference := supplied update.providerReference record.providerReference
    custodyReference := supplied update.custodyReference record.custodyReference
    blockchainTx := supplied update.blockchainTx record.blockchainTx
    ledgerPendingID := suppliedID update.ledgerPendingID record.ledgerPendingID
    ledgerTransferID := suppliedID update.ledgerTransferID record.ledgerTransferID
    attestationID := supplied update.attestationID record.attestationID
    failureClass := supplied update.failureClass record.failureClass
    reconciliationRunID := supplied update.reconciliationRunID record.reconciliationRunID
    terminalAt := if terminalStage stage then some now else record.terminalAt }

@[simp] theorem supplied_empty (stored : String) : supplied "" stored = stored := rfl

theorem supplied_of_ne (given : update ≠ "") (stored : String) :
    supplied update stored = update := if_pos given

@[simp] theorem suppliedID_zero (stored : UInt64) : suppliedID 0 stored = stored := rfl

/-- A stage the store accepts is never left for itself and never left once terminal. -/
theorem not_terminal_of_stageAllowsRecord
    (allowed : stageAllowsRecord record target = true) : terminalStage record.stage = false := by
  cases stage : record.stage <;> cases target <;>
    simp_all [stageAllowsRecord, stageAllows, terminalStage]

end UmojaFlowOS.Settlement
