import UmojaFlowOS.Settlement.Ports

/-!
# The reconciler of UNKNOWN sagas

`UnknownSagaReconciler` (`internal/settlement/unknown_saga_reconciler.go`) as a
program over the ports: a bounded worker that queries each authority for what
happened and makes an approved terminal decision when all facts agree.
-/

namespace UmojaFlowOS.Settlement

open Go Ledger

/-- `UnknownSagaReconciler` (lines 25-35): which of its
dependencies are non-nil, and its settings. -/
structure UnknownSagaReconciler where
  store : Bool := true
  fiat : Bool := true
  custody : Bool := true
  finality : Bool := true
  ledger : Bool := true
  attestor : Bool := true
  owner : String
  batchSize : Int
  lease : Int

/-- `recoveryIntent` (lines 198-200). -/
def recoveryIntent (record : SettlementRecord) : Intent :=
  { id := record.intentID
    idempotencyKey := record.idempotencyKey
    tenantID := record.tenantID
    asset := record.asset
    fiat := record.fiat
    destination := record.destination
    direction := record.direction
    amountMinor := record.amountMinor
    payloadSHA256 := record.payloadSHA256 }

/-- `ledgerFactFromObservation` (lines 201-203). -/
def ledgerFactFromObservation (observation : TransferObservation) (state : State) : LedgerFact :=
  { transferID := Nat.repr observation.id.toNat
    debitAccount := Nat.repr observation.debitAccountID.toNat
    creditAccount := Nat.repr observation.creditAccountID.toNat
    amountMinor := observation.amount.toInt64
    currency := observation.currency
    state := state.text }

/-- `mustLedgerFactID` (line 204). -/
def mustLedgerFactID (fact : LedgerFact) : UInt64 :=
  match ledgerFactID fact with
  | .ok id => id
  | .error _ => 0

/-- What `observeCommercialEffects` returns besides its error. -/
structure CommercialEffects where
  fiat : ProviderResult := {}
  custody : ProviderResult := {}
  final : Bool := false
  effects : Bool := false
  noEffect : Bool := false

/-- The keys under which the fiat and custody legs were sent (lines 89-96). -/
def fiatStageOf (intent : Intent) : String :=
  if intent.direction = .offramp then "fiat_payout" else "fiat_collect"

def custodyStageOf (intent : Intent) : String :=
  if intent.direction = .offramp then "custody_offramp" else "custody_onramp"

/-- `observeCommercialEffects` (lines 88-114). -/
def observeCommercialEffects (intent : Intent) : Saga (Except GoError CommercialEffects) := do
  let (fiat, err) ← call (.queryFiat (stageIntent intent (fiatStageOf intent)))
  if let some err := err then
    return .error (.inContext "query fiat provider" err)
  let (custody, err) ← call (.queryTransfer (stageIntent intent (custodyStageOf intent)))
  if let some err := err then
    return .error (.inContext "query custody provider" err)
  let noEffect := decide (fiat.state = .failed) && fiat.retryableWithoutEffect &&
    decide (custody.state = .failed) && custody.retryableWithoutEffect
  if ¬ settledFact fiat ∨ ¬ settledFact custody ∨ trimSpace custody.blockchainTx = "" then
    return .ok { fiat := fiat, custody := custody, noEffect := noEffect }
  let (final, err) ← call (.isFinal custody.blockchainTx intent.asset)
  if let some err := err then
    return .error (.inContext "query blockchain finality" err)
  return .ok { fiat := fiat, custody := custody, final := final, effects := true }

/-- `FindResolutionAuthorization` with the checks its callers make on it
(lines 120-126, `141-147`, `156-162`, `168-174`). -/
def approvalFor (record : SettlementRecord) (decision : Decision) :
    Saga (Except GoError ResolutionAuthorization) := do
  let (auth, ok, err) ← call (.store (.findResolutionAuthorization record.tenantID record.sagaID
    decision))
  if let some err := err then
    return .error err
  if ¬ ok then
    return .error .resolutionApproval
  return .ok auth

/-- The update by which a saga is held (line 151 and `163`). -/
def heldUpdate (auth : ResolutionAuthorization) (reason : String) : SagaUpdate :=
  { failureClass := "held", reconciliationRunID := auth.reconciliationRunID, reason := reason }

section
variable [CaseTables] (w : UnknownSagaReconciler)

section
variable (record : SettlementRecord)

/-- `ensureCommitted` (lines 116-138). -/
def ensureCommitted (intent : Intent) (observation : LedgerObservation) :
    Saga (Except GoError LedgerFact) := do
  if observation.committed.exists then
    return .ok (ledgerFactFromObservation observation.committed .settled)
  match ← approvalFor record .commit with
  | .error err => return .error err
  | .ok _ =>
    let (committed, err) ← call (.ledger (.commit (stageIntent intent "ledger_commit")
      (ledgerFactFromObservation observation.pending .prepared)))
    if let some err := err then
      return .error (.inContext "commit reconciled pending transfer" err)
    if let some err := validateLedgerFact committed intent .settled then
      return .error err
    return .ok committed

/-- `voidAndHold` (lines 140-153). -/
def voidAndHold (intent : Intent) (observation : LedgerObservation)
    (reason : String) : Saga (Option GoError) := do
  match ← approvalFor record .void with
  | .error err => return some err
  | .ok auth =>
    let err ← call (.ledger (.void (stageIntent intent "ledger_void")
      (ledgerFactFromObservation observation.pending .prepared) reason))
    if let some err := err then
      return some (.inContext "void reconciled pending transfer" err)
    let (_, err) ← call (.store (.resolveUnknownSaga record w.owner auth (heldUpdate auth reason)))
    return err

/-- `resolveHeld` (lines 155-165). -/
def resolveHeld (reason : String) : Saga (Option GoError) := do
  match ← approvalFor record .void with
  | .error err => return some err
  | .ok auth =>
    let (_, err) ← call (.store (.resolveUnknownSaga record w.owner auth (heldUpdate auth reason)))
    return err

/-- `attestAndSettle` (lines 167-196). -/
def attestAndSettle (intent : Intent) (fiat custody : ProviderResult)
    (committed : LedgerFact) : Saga (Option GoError) := do
  match ← approvalFor record .commit with
  | .error err => return some err
  | .ok auth =>
    let digest := intentPayloadDigest intent
    let (att, err) ← call (.attest (stageIntent intent "fabric_attest") digest)
    if err.isSome ∨ att.digest ≠ digest ∨ trimSpace att.evidenceID = "" then
      return some (.inContext "reconcile attestation" (errOrMismatch err))
    let (verified, err) ← call (.verifyAttestation att)
    if err.isSome ∨ ¬ verified then
      return some (.inContext "verify reconciliation attestation" (errOrMismatch err))
    let fiat := { fiat with blockchainTx := custody.blockchainTx }
    if let some err := reconcile committed fiat att digest then
      return some err
    let (_, err) ← call (.store (.resolveUnknownSaga record w.owner auth
      { providerReference := fiat.reference
        custodyReference := custody.reference
        blockchainTx := custody.blockchainTx
        ledgerTransferID := mustLedgerFactID committed
        attestationID := att.id
        reconciliationRunID := auth.reconciliationRunID
        reason := "authorized post-partition reconciliation complete" }))
    return err

/-- `reconcileRecord` (lines 57-86). -/
def reconcileRecord : Saga (Option GoError) := do
  if record.stage ≠ .unknown ∨ record.ledgerPendingID = 0 then
    return some .reconciliationUnresolved
  let intent := recoveryIntent record
  let (observation, err) ← call (.ledger (.observe intent record.ledgerPendingID))
  if let some err := err then
    return some (.inContext "observe TigerBeetle saga" err)
  if observation.voided.exists then
    return ← resolveHeld w record "pending ledger transfer was previously voided"
  match ← observeCommercialEffects intent with
  | .error err => return some err
  | .ok found =>
    if found.noEffect ∧ ¬ observation.committed.exists then
      return ← voidAndHold w record intent observation
        "all provider queries prove no commercial effect"
    if ¬ found.effects ∨ ¬ found.final then
      return some .reconciliationUnresolved
    match ← ensureCommitted record intent observation with
    | .error err => return some err
    | .ok committed => attestAndSettle w record intent found.fiat found.custody committed

end

/-- The loop of `ReconcileOnce` (lines 46-54). -/
def reconcileAll (resolved : Nat) : List SettlementRecord → Saga (Nat × Option GoError)
  | [] => return (resolved, none)
  | record :: records => do
    if let some err ← reconcileRecord w record then
      return (resolved, some err)
    reconcileAll (resolved + 1) records

/-- `ReconcileOnce` (lines 37-55). -/
def reconcileOnce (tenantID : String) : Saga (Nat × Option GoError) := do
  if ¬ (w.store && w.fiat && w.custody && w.finality && w.ledger && w.attestor) ∨
      trimSpace w.owner = "" ∨ w.batchSize ≤ 0 ∨ w.lease ≤ 0 then
    return (0, some (.new ("reconciliation store, fiat, custody, finality, ledger, attestor, " ++
      "owner, batch size, and lease are required")))
  let (records, err) ← call (.store (.claimUnknownSagas tenantID w.owner w.batchSize w.lease))
  if let some err := err then
    return (0, some err)
  reconcileAll w 0 records

end

end UmojaFlowOS.Settlement
