import UmojaFlowOS.Relational.Column
import UmojaFlowOS.Settlement.UnknownSagaStore

/-!
# How saga rows are scanned

`scanSaga` (`internal/settlement/postgres_saga.go:287-312`) on the columns that `Reserve`
returns, and `Reserve` with the scan of the row it inserts. The other statements of the
store model hand out records as they are.
-/

namespace UmojaFlowOS.Settlement

open Relational

/-- The conversion `Direction(direction)`. -/
def Direction.ofText (text : String) : Direction :=
  if text = "onramp" then .onramp else if text = "offramp" then .offramp else .other text

/-- The stage a text stands for; the check on the column (`0062:20-25`) admits no
other text. -/
def ExecutionStage.ofText (text : String) : ExecutionStage :=
  ([.received, .screened, .routed, .liquidityReserved, .ledgerPrepared, .fiatSubmitted,
    .custodySubmitted, .finalityConfirmed, .ledgerCommitted, .attestationVerified, .settled, .held,
    .unknown].find? fun stage => stage.text = text).getD .unset

namespace PostgresSagaStore

/-- The local variables of `scanSaga`; two of them are never scanned into. -/
structure ScannedSaga where
  out : SettlementRecord := {}
  direction : String := ""
  pendingID : Option Int := none
  transferID : Option Int := none
  terminalAt : Option Time := none

/-- What it makes of them (lines 300-310). -/
def ScannedSaga.record (scanned : ScannedSaga) : SettlementRecord :=
  { scanned.out with
    direction := .ofText scanned.direction
    ledgerPendingID := positive scanned.pendingID
    ledgerTransferID := positive scanned.transferID
    terminalAt := scanned.terminalAt }

namespace ScannedSaga

def intoOut (store : String → SettlementRecord → SettlementRecord) : Destination ScannedSaga :=
  intoString fun value scanned => { scanned with out := store value scanned.out }

def intoDirection : Destination ScannedSaga :=
  intoString fun value scanned => { scanned with direction := value }

def intoAmount : Destination ScannedSaga :=
  intoInt64 fun value scanned =>
    { scanned with out := { scanned.out with amountMinor := Int64.ofInt value } }

def intoVersion : Destination ScannedSaga :=
  intoInt64 fun value scanned =>
    { scanned with out := { scanned.out with version := value.toNat } }

def intoCreatedAt : Destination ScannedSaga :=
  intoTime fun value scanned => { scanned with out := { scanned.out with createdAt := value } }

def intoUpdatedAt : Destination ScannedSaga :=
  intoTime fun value scanned => { scanned with out := { scanned.out with updatedAt := value } }

def intoTerminalAt : Destination ScannedSaga :=
  intoNullTime fun value scanned => { scanned with terminalAt := value }

/-- The first eleven destinations (lines 293-294). -/
def leading : List (Destination ScannedSaga) :=
  [intoOut fun value out => { out with tenantID := value },
    intoOut fun value out => { out with sagaID := value },
    intoOut fun value out => { out with intentID := value },
    intoOut fun value out => { out with idempotencyKey := value },
    intoOut fun value out => { out with payloadSHA256 := value }, intoDirection,
    intoOut fun value out => { out with asset := value },
    intoOut fun value out => { out with fiat := value }, intoAmount,
    intoOut fun value out => { out with destination := value },
    intoOut fun value out => { out with stage := .ofText value }]

end ScannedSaga

open ScannedSaga

/-- A nullable identifier column; the store keeps a NULL as 0. -/
def idColumn (id : UInt64) : Column := nullifZero id.toNat

def timeColumn : Option Time → Column
  | none => .null
  | some time => .time time

section
variable (r : SettlementRecord)

/-- The columns that are listed first. -/
def leadingColumns : List Column :=
  [.text r.tenantID, .text r.sagaID, .text r.intentID, .text r.idempotencyKey, .text r.payloadSHA256,
    .text r.direction.text, .text r.asset, .text r.fiat, .int r.amountMinor.toInt,
    .text r.destination, .text r.stage.text]

/-- The `RETURNING` list of `Reserve` (line 258). -/
def returnedColumns : List Column :=
  leadingColumns r ++ [.int r.version, .time r.createdAt, .time r.updatedAt,
    idColumn r.ledgerPendingID, idColumn r.ledgerTransferID, timeColumn r.terminalAt]

/-- The destinations of `scanSaga` (lines 292-296). -/
def scanSagaDestinations : List (Destination ScannedSaga) :=
  leading ++ [intoVersion, intoCreatedAt, intoUpdatedAt, intoTerminalAt]

/-- `scanSaga` (lines 287-312). -/
def scanSaga (columns : List Column) : Except GoError SettlementRecord :=
  (scan scanSagaDestinations columns {}).map ScannedSaga.record

end

/-! ## Reserving with the scan of the inserted row -/

/-- `Reserve` (lines 241-285) with the scan of the source. -/
def reserveScanned (intent : Intent) (digest : String) :
    Sql (SettlementRecord × Bool × Option GoError) := do
  let now ← clock
  if let some err := validateReservedIntent now intent digest then
    return ({}, false, some err)
  withTx intent.tenantID (fun err => ({}, false, some err))
    (reserveTxWith (fun record => scanSaga (returnedColumns record)) intent digest)

end PostgresSagaStore

end UmojaFlowOS.Settlement
