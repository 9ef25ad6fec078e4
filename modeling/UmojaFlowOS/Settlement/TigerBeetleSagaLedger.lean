import UmojaFlowOS.Ledger.Posting
import UmojaFlowOS.Settlement.Ports

/-!
# The TigerBeetle saga ledger

`PostgresAccountResolver` and `TigerBeetleSagaLedger`
(`internal/settlement/tigerbeetle_saga_ledger.go`): accounts come from the
tenant's bindings, transfer identifiers from a hash of the operation.
-/

namespace UmojaFlowOS.Settlement

open Go Crypto Ledger

/-- `LedgerAccounts` (lines 19-22). -/
structure LedgerAccounts where
  debitAccountID : UInt64 := 0
  creditAccountID : UInt64 := 0

/-- A row of `settlement_account_binding` with the constraints of the table
(`0062_durable_settlement_saga_outbox.sql:52-68`). -/
structure AccountBinding where
  tenantID : String
  direction : String
  asset : String
  fiat : String
  corridorID : String := ""
  debitAccountID : Int64
  creditAccountID : Int64
  active : Bool := true
  directionOk : direction = "onramp" ∨ direction = "offramp" := by decide
  debitOk : 0 < debitAccountID := by decide
  creditOk : 0 < creditAccountID := by decide
  accountsOk : debitAccountID ≠ creditAccountID := by decide

/-- The columns of the table's `UNIQUE` constraint. -/
def AccountBinding.columns (row : AccountBinding) : List String :=
  [row.tenantID, row.direction, row.asset, row.fiat, row.corridorID]

structure AccountBindings where
  rows : List AccountBinding := []
  unique : (rows.map AccountBinding.columns).Nodup := by decide

/-- The query of the resolver (lines 49-54); at most one row
qualifies. -/
def AccountBindings.select (bindings : AccountBindings)
    (tenantID direction asset fiat corridorID : String) : Except GoError (Int64 × Int64) :=
  match bindings.rows.find? fun row =>
      row.columns = [tenantID, direction, asset, fiat, corridorID] && row.active with
  | some row => .ok (row.debitAccountID, row.creditAccountID)
  | none => .error .noRows

section
variable [CaseTables]

/-- `ResolveSettlementAccounts` (lines 33-68). The deferred
rollback of a read-only transaction changes nothing. -/
def resolveSettlementAccounts (intent : Intent) : LedgerCode (Except GoError LedgerAccounts) := do
  let now ← LedgerPort.now.call
  if let some err := validateIntent now intent then
    return .error err
  if let some err ← LedgerPort.beginReadOnly.call then
    return .error err
  if let some err ← (LedgerPort.bindTenant intent.tenantID).call then
    return .error (.inContext "bind account resolver tenant" err)
  match ← (LedgerPort.selectBinding intent.tenantID intent.direction.text (toUpper intent.asset)
    (toUpper intent.fiat) (trimSpace intent.corridorID)).call with
  | .error err =>
    if err = .noRows then
      return .error (.new "active tenant settlement account binding is unavailable")
    return .error err
  | .ok (debit, credit) =>
    if debit ≤ 0 ∨ credit ≤ 0 ∨ debit = credit then
      return .error (.new "tenant settlement account binding is invalid")
    if let some err ← LedgerPort.commitReadOnly.call then
      return .error err
    return .ok { debitAccountID := debit.toUInt64, creditAccountID := credit.toUInt64 }

end

section
variable (tenantID idempotencyKey payloadSHA256 operation : String)

/-- What `deterministicLedgerOperationID` hashes. -/
def operationPreimage : String :=
  tenantID ++ "\x00" ++ idempotencyKey ++ "\x00" ++ payloadSHA256 ++ "\x00" ++ operation

/-- The first eight bytes of a hash as `binary.BigEndian.Uint64` reads them, with
the identifier 1 in place of 0 (lines 208-214). -/
def operationIDOf (sum : List UInt8) : UInt64 :=
  let id := UInt64.ofNat (ofBigEndian (sum.take 8))
  if id = 0 then 1 else id

/-- `deterministicLedgerOperationID` (lines 206-215). -/
def deterministicLedgerOperationID :
    UInt64 :=
  operationIDOf (sha256 (bytes (operationPreimage tenantID idempotencyKey payloadSHA256 operation)))

theorem deterministicLedgerOperationID_ne_zero :
    deterministicLedgerOperationID tenantID idempotencyKey payloadSHA256 operation ≠ 0 := by
  unfold deterministicLedgerOperationID operationIDOf
  dsimp only
  split
  · decide
  · assumption

end

/-- The identifier of an operation of an intent (lines 116-117 and 202). -/
def operationID (intent : Intent) (operation : String) : UInt64 :=
  deterministicLedgerOperationID intent.tenantID intent.idempotencyKey (intentPayloadDigest intent)
    operation

/-- `ledgerFactFromPosted` (lines 217-219). -/
def ledgerFactFromPosted (fact : PostedTransferFact) (state : State) : LedgerFact :=
  { transferID := formatUint fact.transferID
    debitAccount := formatUint fact.debitAccountID
    creditAccount := formatUint fact.creditAccountID
    amountMinor := fact.amount.toInt64
    currency := fact.currency
    state := state.text }

/-- `TigerBeetleSagaLedger` (lines 82-85): the poster, and
whether the account resolver is set. -/
structure TigerBeetleSagaLedger where
  poster : Option PostingService
  accounts : Bool := true

/-- The comparison of an observed transfer with the saga
(lines 126-134). -/
def observedAs [CaseTables] (observed : TransferObservation) (mode : TransferMode)
    (accounts : LedgerAccounts) (intent : Intent) : Bool :=
  observed.mode = mode && equalFold observed.currency intent.fiat &&
    observed.debitAccountID = accounts.debitAccountID &&
    observed.creditAccountID = accounts.creditAccountID &&
    observed.amount = intent.amountMinor.toUInt64

namespace TigerBeetleSagaLedger

variable [LedgerLibrary] (l : TigerBeetleSagaLedger)

section
variable (intent : Intent)

/-- The checks of `Observe` on the three observations
(lines 126-138). -/
def checkObservation (pendingID : UInt64) (accounts : LedgerAccounts)
    (observation : LedgerObservation) : LedgerObservation × Option GoError :=
  let ⟨pending, committed, voided⟩ := observation
  if ¬ pending.exists ∨ pending.id ≠ pendingID ∨ ¬ observedAs pending .pending accounts intent then
    ({}, some (.new "TigerBeetle pending transfer observation does not match durable saga"))
  else if committed.exists ∧ (committed.pendingID ≠ pendingID ∨
      ¬ observedAs committed .postPending accounts intent) then
    ({}, some (.new "TigerBeetle commit observation does not match durable saga"))
  else if voided.exists ∧ (voided.pendingID ≠ pendingID ∨
      ¬ observedAs voided .voidPending accounts intent) then
    ({}, some (.new "TigerBeetle void observation does not match durable saga"))
  else if committed.exists ∧ voided.exists then
    ({}, some (.new "TigerBeetle saga has conflicting commit and void records"))
  else (observation, none)

/-- `Observe` (lines 98-139). -/
def observe (pendingID : UInt64) :
    LedgerCode (LedgerObservation × Option GoError) :=
  match l.poster with
  | some poster => do
    if ¬ l.accounts ∨ pendingID = 0 then
      return ({}, some (.new "TigerBeetle poster, account resolver, and pending ID are required"))
    match ← resolveSettlementAccounts intent with
    | .error err => return ({}, some err)
    | .ok accounts =>
      let (pending, err) ← poster.lookupTransfer pendingID
      if let some err := err then
        return ({}, some err)
      let (committed, err) ← poster.lookupTransfer (operationID intent "commit")
      if let some err := err then
        return ({}, some err)
      let (voided, err) ← poster.lookupTransfer (operationID intent "void")
      if let some err := err then
        return ({}, some err)
      return checkObservation intent pendingID accounts ⟨pending, committed, voided⟩
  | none =>
    return ({}, some (.new "TigerBeetle poster, account resolver, and pending ID are required"))

/-- `postingRequest` (lines 185-204), with the poster it
leaves usable. -/
def postingRequest (operation : String) (pendingID : UInt64) :
    LedgerCode (Except GoError (PostingService × PostingRequest)) := do
  let now ← LedgerPort.now.call
  if let some err := validateIntent now intent then
    return .error err
  match l.poster, l.accounts with
  | some poster, true =>
    match ← resolveSettlementAccounts intent with
    | .error err => return .error err
    | .ok accounts =>
      if intent.amountMinor ≤ 0 then
        return .error .invalidIntent
      return .ok (poster,
        { transferID := operationID intent operation
          correlationID := intent.id ++ ":" ++ operation
          currency := intent.fiat
          amount := intent.amountMinor.toUInt64
          debitAccountID := accounts.debitAccountID
          creditAccountID := accounts.creditAccountID
          pendingID := pendingID })
  | _, _ => return .error (.new "TigerBeetle poster and tenant account resolver are required")

/-- `Prepare` (lines 141-151). -/
def prepare : LedgerCode (LedgerFact × Option GoError) := do
  match ← l.postingRequest intent "pending" 0 with
  | .error err => return ({}, some err)
  | .ok (poster, request) =>
    let (fact, err) ← poster.postPendingTransfer request
    if let some err := err then
      return ({}, some (.inContext "prepare TigerBeetle pending transfer" err))
    return (ledgerFactFromPosted fact .prepared, none)

/-- `Commit` (lines 152-166). -/
def commit (pending : LedgerFact) :
    LedgerCode (LedgerFact × Option GoError) := do
  match ledgerFactID pending with
  | .error err => return ({}, some err)
  | .ok pendingID =>
    match ← l.postingRequest intent "commit" pendingID with
    | .error err => return ({}, some err)
    | .ok (poster, request) =>
      let (fact, err) ← poster.commitPendingTransfer request
      if let some err := err then
        return ({}, some (.inContext "commit TigerBeetle pending transfer" err))
      return (ledgerFactFromPosted fact .settled, none)

/-- `Void` (lines 167-183). -/
def void (pending : LedgerFact) (reason : String) :
    LedgerCode (Option GoError) := do
  if trimSpace reason = "" then
    return some (.new "pending transfer void reason is required")
  match ledgerFactID pending with
  | .error err => return some err
  | .ok pendingID =>
    match ← l.postingRequest intent "void" pendingID with
    | .error err => return some err
    | .ok (poster, request) =>
      let (_, err) ← poster.voidPendingTransfer request
      if let some err := err then
        return some (.inContext "void TigerBeetle pending transfer" err)
      return none

end

def serve : (call : LedgerCall) → LedgerCode call.Answer
  | .prepare intent => l.prepare intent
  | .commit intent pending => l.commit intent pending
  | .void intent pending reason => l.void intent pending reason
  | .observe intent pendingID => l.observe intent pendingID

end TigerBeetleSagaLedger

end UmojaFlowOS.Settlement
