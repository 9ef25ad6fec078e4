import UmojaFlowOS.Settlement.Ports

/-!
# The settlement coordinator

`Coordinator.Execute` and everything it runs (`internal/settlement/all_rails.go`).
Each Go function is a program over the ports with the source's statements in the
source's order; `record, err = c.advance(...)` overwrites `record` also when the
call fails, as in Go.
-/

namespace UmojaFlowOS.Settlement

open Go

/-- Which dependencies of `Coordinator` (lines 104-114) are non-nil. -/
structure Coordinator where
  fiat : Bool := true
  custody : Bool := true
  finality : Bool := true
  screening : Bool := true
  ledger : Bool := true
  attestor : Bool := true
  routing : Bool := true
  liquidity : Bool := true
  saga : Bool := true

abbrev Outcome := ProviderResult × Option GoError

section
variable (record : SettlementRecord)

/-- `unknown` (lines 342-350). -/
def unknown (reason : String) (cause : Option GoError) :
    Saga Outcome := do
  let err ← call (.store (.markUnknown record reason))
  if let some err := err then
    return ({ state := .unknown, reason := "durable unknown state unavailable" },
      some (.wrapWith .unknown err))
  return ({ state := .unknown, reason := reason }, some (.wrapWith .unknown (cause.getD .unknown)))

/-- `hold` (lines 332-340). -/
def hold (reason : String) (cause : Option GoError) :
    Saga Outcome := do
  let err ← call (.store (.markHeld record reason))
  if err.isSome then
    return ← unknown record "could not persist settlement hold" err
  return ({ state := .held, reason := reason }, some (cause.getD .held))

/-- `advance` (lines 328-330). -/
def advance (stage : ExecutionStage) (update : SagaUpdate) :
    Saga (SettlementRecord × Option GoError) :=
  call (.store (.advance record stage update))

/-- `resultFromRecord` (lines 352-363). -/
def resultFromRecord : Outcome :=
  match record.stage with
  | .settled =>
    ({ state := .settled, reference := record.providerReference
       blockchainTx := record.blockchainTx, reason := "durable settled result" }, none)
  | .held => ({ state := .held, reason := record.failureClass }, some .held)
  | .unknown => ({ state := .unknown, reason := record.failureClass }, some .unknown)
  | _ =>
    ({ state := .unknown, reason := "settlement saga is in progress; retry prohibited" },
      some .unknown)

/-- What `executeOnrampEffects` and its siblings return. -/
abbrev Effects := ProviderResult × SettlementRecord × Option GoError

/-- `result, unknownErr := c.unknown(...); return result, record, unknownErr`. -/
def unknownEffects (reason : String) (cause : Option GoError) :
    Saga Effects := do
  let (result, unknownErr) ← unknown record reason cause
  return (result, record, unknownErr)

end

/-- `handlePreCustodyFailure` (lines 312-326). -/
def handlePreCustodyFailure (intent : Intent) (record : SettlementRecord) (pending : LedgerFact)
    (result : ProviderResult) (label : String) (cause : Option GoError) : Saga Effects := do
  if cause = none ∧ result.state = .failed ∧ result.retryableWithoutEffect then
    let err ← call (.ledger (.void (stageIntent intent "ledger_void") pending
      (label ++ " had no effect")))
    if err.isSome then
      return ← unknownEffects record "pending ledger void outcome unknown" err
    let (out, heldErr) ← hold record
      (label ++ " did not complete and pending ledger transfer was voided") (some .held)
    return (out, record, heldErr)
  return ← unknownEffects record (label ++ " outcome unknown") (some .unknown)

/-- `executeOnrampEffects` (lines 243-275). -/
def executeOnrampEffects (intent : Intent) (record : SettlementRecord) (pending : LedgerFact) :
    Saga Effects := do
  let (fiat, err) ← call (.collect (stageIntent intent "fiat_collect"))
  if err.isSome ∨ ¬ settledFact fiat then
    return ← handlePreCustodyFailure intent record pending fiat "fiat collection" err
  let (record, err) ← advance record .fiatSubmitted
    { providerReference := fiat.reference, reason := "fiat collection confirmed" }
  if err.isSome then
    return ← unknownEffects record "could not persist fiat collection" err
  let (custody, err) ← call (.submitTransfer (stageIntent intent "custody_onramp"))
  if err.isSome ∨ ¬ settledFact custody ∨ trimSpace custody.blockchainTx = "" then
    return ← unknownEffects record "custody onramp outcome unknown" (some (errOrMismatch err))
  let (record, err) ← advance record .custodySubmitted
    { custodyReference := custody.reference, blockchainTx := custody.blockchainTx,
      reason := "custody transfer submitted" }
  if err.isSome then
    return ← unknownEffects record "could not persist custody transfer" err
  let (final, err) ← call (.isFinal custody.blockchainTx intent.asset)
  if err.isSome ∨ ¬ final then
    return ← unknownEffects record "custody transfer finality unknown" (some (errOrMismatch err))
  let (record, err) ← advance record .finalityConfirmed
    { reason := "custody transfer finality confirmed" }
  if err.isSome then
    return ← unknownEffects record "could not persist custody finality" err
  return ({ fiat with blockchainTx := custody.blockchainTx }, record, none)

/-- `executeOfframpEffects` (lines 277-310). -/
def executeOfframpEffects (intent : Intent) (record : SettlementRecord) :
    Saga Effects := do
  let (custody, err) ← call (.submitTransfer (stageIntent intent "custody_offramp"))
  if err.isSome ∨ ¬ settledFact custody ∨ trimSpace custody.blockchainTx = "" then
    return ← unknownEffects record "custody redemption outcome unknown" (some (errOrMismatch err))
  let (record, err) ← advance record .custodySubmitted
    { custodyReference := custody.reference, blockchainTx := custody.blockchainTx,
      reason := "custody redemption submitted" }
  if err.isSome then
    return ← unknownEffects record "could not persist custody redemption" err
  let (final, err) ← call (.isFinal custody.blockchainTx intent.asset)
  if err.isSome ∨ ¬ final then
    return ← unknownEffects record "custody redemption finality unknown" (some (errOrMismatch err))
  let (record, err) ← advance record .finalityConfirmed
    { reason := "custody redemption finality confirmed" }
  if err.isSome then
    return ← unknownEffects record "could not persist redemption finality" err
  let (fiat, err) ← call (.payout (stageIntent intent "fiat_payout"))
  if err.isSome ∨ ¬ settledFact fiat then
    return ← unknownEffects record "fiat payout outcome unknown" (some (errOrMismatch err))
  let (record, err) ← advance record .fiatSubmitted
    { providerReference := fiat.reference, reason := "fiat payout confirmed" }
  if err.isSome then
    return ← unknownEffects record "could not persist fiat payout" err
  return ({ fiat with blockchainTx := custody.blockchainTx }, record, none)

/-- The branch on the direction (lines 188-193). -/
def executeEffects (intent : Intent) (record : SettlementRecord) (pending : LedgerFact) :
    Saga Effects :=
  if intent.direction = .onramp then executeOnrampEffects intent record pending
  else executeOfframpEffects intent record

variable [CaseTables]

/-- The part of `executeOwned` before the commercial effects (lines 138-186):
screening, routing, liquidity and the pending ledger transfer. The continuation
gets the record and the pending fact. -/
def admitIntent (intent : Intent) (record : SettlementRecord)
    (effects : SettlementRecord → LedgerFact → Saga Outcome) : Saga Outcome := do
  let (screen, err) ← call (.screen (stageIntent intent "screen"))
  if err.isSome then
    return ← hold record "screening unavailable" err
  if ¬ equalFold screen.decision "clear" then
    return ← hold record ("screening denied: " ++ boundedReason screen.reason) (some .held)
  let (record, err) ← advance record .screened { reason := "screening clear" }
  if err.isSome then
    return ← unknown record "could not persist screening result" err
  let (route, err) ← call (.route intent)
  if err.isSome then
    return ← hold record "corridor route unavailable" (some .corridorUnavailable)
  let (record, err) ← advance record .routed
    { routeID := route.route.id, reason := "route selected" }
  if err.isSome then
    return ← unknown record "could not persist route" err
  let (liquidity, err) ← call (.verifyLiquidity intent route)
  if err.isSome ∨ ¬ liquidity.allowed then
    return ← hold record ("liquidity unavailable: " ++ boundedReason liquidity.reason)
      (some (err.getD .liquidityUnavailable))
  let (record, err) ← advance record .liquidityReserved { reason := "liquidity admission granted" }
  if err.isSome then
    return ← unknown record "could not persist liquidity admission" err
  let (pending, err) ← call (.ledger (.prepare (stageIntent intent "ledger_prepare")))
  if err.isSome then
    return ← unknown record "ledger prepare outcome unknown" err
  if let some err := validateLedgerFact pending intent .prepared then
    return ← unknown record "prepared ledger fact mismatch" (some err)
  match ledgerFactID pending with
  | .error err => return ← unknown record "prepared ledger identifier invalid" (some err)
  | .ok pendingID =>
    let (record, err) ← advance record .ledgerPrepared
      { ledgerPendingID := pendingID, reason := "ledger pending transfer prepared" }
    if err.isSome then
      return ← unknown record "could not persist pending ledger fact" err
    effects record pending

/-- The part of `executeOwned` after the commercial effects (lines 198-240):
ledger commit, attestation, reconciliation and the settled stage. -/
def settleEffects (intent : Intent) (digest : String) (record : SettlementRecord)
    (pending : LedgerFact) (providerOutcome : ProviderResult) : Saga Outcome := do
  let (committed, err) ← call (.ledger (.commit (stageIntent intent "ledger_commit") pending))
  if err.isSome then
    return ← unknown record "ledger commit outcome unknown" err
  if let some err := validateLedgerFact committed intent .settled then
    return ← unknown record "committed ledger fact mismatch" (some err)
  match ledgerFactID committed with
  | .error err => return ← unknown record "committed ledger identifier invalid" (some err)
  | .ok transferID =>
    let (record, err) ← advance record .ledgerCommitted
      { ledgerTransferID := transferID, reason := "ledger pending transfer committed" }
    if err.isSome then
      return ← unknown record "could not persist committed ledger fact" err
    let (att, err) ← call (.attest (stageIntent intent "fabric_attest") digest)
    if err.isSome ∨ att.digest ≠ digest ∨ trimSpace att.evidenceID = "" then
      return ← unknown record "attestation outcome unknown or mismatched"
        (some (err.getD .mismatch))
    let (verified, err) ← call (.verifyAttestation att)
    if err.isSome ∨ ¬ verified then
      return ← unknown record "attestation verification failed" (some (err.getD .mismatch))
    let (record, err) ← advance record .attestationVerified
      { attestationID := att.id, reason := "attestation verified" }
    if err.isSome then
      return ← unknown record "could not persist verified attestation" err
    if let some err := reconcile committed providerOutcome att digest then
      return ← unknown record "cross-system reconciliation mismatch" (some err)
    let (record, err) ← advance record .settled
      { providerReference := providerOutcome.reference, attestationID := att.id,
        reason := "all settlement facts reconciled" }
    if err.isSome then
      return ← unknown record "could not persist settled outcome" err
    return (
      { state := .settled, reference := providerOutcome.reference
        blockchainTx := providerOutcome.blockchainTx
        reason := "fiat, custody, finality, ledger, and attestation facts reconciled" }, none)

/-- `executeOwned` (lines 138-241). -/
def executeOwned (intent : Intent) (record : SettlementRecord) (digest : String) : Saga Outcome :=
  admitIntent intent record fun record pending => do
    let (providerOutcome, record, err) ← executeEffects intent record pending
    if err.isSome then
      return (providerOutcome, err)
    settleEffects intent digest record pending providerOutcome

/-- `Execute` (lines 120-136). -/
def execute (c : Coordinator) (intent : Intent) : Saga Outcome := do
  let now ← call .now
  if let some err := validateIntent now intent then
    return ({}, some err)
  if ¬ (c.fiat && c.custody && c.finality && c.screening && c.ledger && c.attestor &&
      c.routing && c.liquidity && c.saga) then
    return ({}, some (.new ("fiat, custody, finality, screening, ledger, attestor, routing, " ++
      "liquidity verifier, and saga store are required")))
  let digest := intentPayloadDigest intent
  let (record, owned, err) ← call (.store (.reserve intent digest))
  if let some err := err then
    return ({ state := .unknown, reason := "durable idempotency unavailable" },
      some (.wrapWith .unknown err))
  if ¬ owned then
    return resultFromRecord record
  executeOwned intent record digest

end UmojaFlowOS.Settlement
