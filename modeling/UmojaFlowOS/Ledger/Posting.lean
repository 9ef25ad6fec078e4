import UmojaFlowOS.Ledger.TigerBeetle

/-!
# The posting service

`PostingService` (`internal/ledger/posting.go`): a request is validated, sent to
TigerBeetle as one transfer, and, when it is final, projected to PostgreSQL and
written to the audit log.
-/

namespace UmojaFlowOS.Ledger

open Go

/-- `AdmissionToken` (lines 14-18); `release` says whether the function is
set. -/
structure AdmissionToken where
  environment : String := ""
  version : UInt64 := 0
  release : Bool := false

/-- `PostingRequest` (lines 20-28); the defaults are Go's zero values. -/
structure PostingRequest where
  transferID : UInt64 := 0
  correlationID : String := ""
  currency : String := ""
  amount : UInt64 := 0
  debitAccountID : UInt64 := 0
  creditAccountID : UInt64 := 0
  pendingID : UInt64 := 0
  deriving DecidableEq

/-- `PostingService` (lines 34-39): the client, and whether a sink and an
audit log are set. -/
structure PostingService where
  client : Option TigerBeetleClient
  sink : Bool := true
  audit : Bool := false

abbrev Posting := PostedTransferFact × Option GoError

/-- `ProjectConfirmedTransfer` (`projection.go:31-39`). -/
def projectConfirmedTransfer (sink : Bool) (fact : PostedTransferFact) :
    LedgerCode (Option GoError) := do
  if fact.transferID = 0 ∨ fact.correlationID = "" ∨ fact.currency = "" ∨ fact.amount = 0 ∨
      fact.postedAt = 0 then
    return some (.new "complete confirmed tigerbeetle transfer evidence is required for projection")
  if ¬ sink then
    return some (.new "postgres projection sink is not configured")
  (LedgerPort.projectPostedTransfer fact).call

namespace PostingService

variable [LedgerLibrary] (s : PostingService)

section
variable (request : PostingRequest)

/-- `validateRequest` (lines 67-85), with the client it leaves usable. -/
def validateRequest : Except GoError TigerBeetleClient :=
  match s.client, s.sink with
  | some client, true =>
    let currency := toUpper (trimSpace request.currency)
    if request.transferID = 0 ∨ request.debitAccountID = 0 ∨ request.creditAccountID = 0 ∨
        request.amount = 0 then
      .error (.new "transfer id, debit account, credit account, and amount are required")
    else if request.debitAccountID = request.creditAccountID then
      .error (.new "TigerBeetle posting requires distinct debit and credit accounts")
    else if trimSpace request.correlationID = "" then
      .error (.new "correlation id is required for TigerBeetle posting")
    else if currency ∉ ["NGN", "KES", "ZAR", "USD", "USDC", "USDT"] then
      .error (.new ("unsupported TigerBeetle posting currency " ++ quote request.currency))
    else .ok client
  | _, _ => .error (.new "TigerBeetle posting service is not configured")

/-- The transfer a request is sent as (lines 178-186). -/
def transferOf (mode : TransferMode) : Transfer :=
  { id := request.transferID
    debitAccountID := request.debitAccountID
    creditAccountID := request.creditAccountID
    amount := request.amount
    currency := toUpper (trimSpace request.currency)
    pendingID := request.pendingID
    mode := mode }

/-- The fact of a posted request (lines 189-197). -/
def factOf (postedAt : Int) : PostedTransferFact :=
  { transferID := request.transferID
    correlationID := trimSpace request.correlationID
    currency := toUpper (trimSpace request.currency)
    amount := request.amount
    debitAccountID := request.debitAccountID
    creditAccountID := request.creditAccountID
    postedAt := postedAt }

/-- The audit event of a posted fact (lines 205-215). -/
def auditEvent (fact : PostedTransferFact) : LedgerAuditEvent :=
  { event := "tigerbeetle.transfer_confirmed"
    occurredAt := fact.postedAt
    transferID := fact.transferID
    correlationID := fact.correlationID
    currency := fact.currency
    amountMinor := fact.amount
    debitAccountID := fact.debitAccountID
    creditAccountID := fact.creditAccountID
    result := "confirmed_and_projected" }

/-- `postTransfer` (lines 173-220). -/
def postTransfer (mode : TransferMode) (projectFinal : Bool) :
    LedgerCode Posting := do
  match s.validateRequest request with
  | .error err => return ({}, some err)
  | .ok client =>
    if let some err ← client.createTransfers [transferOf request mode] then
      return ({}, some (.inContext ("post TigerBeetle " ++ mode ++ " transfer") err))
    let now ← LedgerPort.now.call
    let fact := factOf request now
    if ¬ projectFinal then
      return (fact, none)
    if let some err ← projectConfirmedTransfer s.sink fact then
      return (fact, some (.inContext
        "TigerBeetle transfer is confirmed but PostgreSQL projection is pending" err))
    if s.audit then
      if let some err ← (LedgerPort.writeLedgerEvent (auditEvent fact)).call then
        return (fact, some (.inContext
          "TigerBeetle transfer is confirmed and projected but audit logging is pending" err))
    return (fact, none)

/-- `PostConfirmedTransfer` (lines 90-92). -/
def postConfirmedTransfer : LedgerCode Posting :=
  s.postTransfer request .confirmed true

/-- `PostPendingTransfer` (lines 96-101). -/
def postPendingTransfer : LedgerCode Posting := do
  if request.pendingID ≠ 0 then
    return ({}, some (.new "pending transfer request must not carry pending id"))
  s.postTransfer request .pending false

/-- `CommitPendingTransfer` (lines 105-110). -/
def commitPendingTransfer : LedgerCode Posting := do
  if request.pendingID = 0 then
    return ({}, some (.new "commit pending transfer requires pending id"))
  s.postTransfer request .postPending true

/-- `VoidPendingTransfer` (lines 114-119). -/
def voidPendingTransfer : LedgerCode Posting := do
  if request.pendingID = 0 then
    return ({}, some (.new "void pending transfer requires pending id"))
  s.postTransfer request .voidPending false

end

/-- `LookupTransfer` (lines 162-171). -/
def lookupTransfer (id : UInt64) : LedgerCode (TransferObservation × Option GoError) :=
  match s.client with
  | some client =>
    if id = 0 then
      return ({}, some (.new "TigerBeetle transfer lookup requires a configured positive ID"))
    else client.lookupTransfer id
  | none => return ({}, some (.new "TigerBeetle transfer lookup requires a configured positive ID"))

end PostingService

/-! ## What a posting submits -/

variable [LedgerLibrary]

/-- What the client hands to TigerBeetle for a transfer of the platform: the
same identifiers, with the flags of the mode. -/
structure Mapped (transfer : Transfer) (sent : Tb.Transfer) : Prop where
  id : sent.id = Tb.toUint128 transfer.id
  pendingID : sent.pendingID = Tb.toUint128 transfer.pendingID
  flags : tigerBeetleTransferFlags transfer = .ok sent.transferFlags

omit [LedgerLibrary] in
theorem Except.bind_eq_ok {ε α β : Type} {x : Except ε α} {f : α → Except ε β} {b : β}
    (done : (x >>= f) = .ok b) : ∃ a, x = .ok a ∧ f a = .ok b := by
  cases x with
  | error err => exact nomatch done
  | ok a => exact ⟨a, rfl, done⟩

theorem mapped_of_mapTransfer {c : TigerBeetleClient}
    (done : c.mapTransfer transfer = .ok sent) : Mapped transfer sent := by
  unfold TigerBeetleClient.mapTransfer at done
  split at done
  · exact nomatch done
  split at done
  · exact nomatch done
  obtain ⟨ledger, -, done⟩ := Except.bind_eq_ok done
  obtain ⟨flags, mode, done⟩ := Except.bind_eq_ok done
  cases done
  refine ⟨rfl, rfl, ?_⟩
  rw [Tb.Transfer.transferFlags, LedgerLibrary.transferFlags_toUint16, mode]

end UmojaFlowOS.Ledger
