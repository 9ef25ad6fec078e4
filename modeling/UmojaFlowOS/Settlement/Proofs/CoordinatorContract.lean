import UmojaFlowOS.Settlement.AllRails

/-!
# What the coordinator may ask of its ports

The contract of `Coordinator.Execute` over the history of one run: for every
port call, what must have been answered before it. Commands that move money or
evidence carry a rank that grows along both effect sequences, so "issued at most
once" and "not yet issued" are bounds on the ranks seen so far.
-/

namespace UmojaFlowOS.Settlement

open Go

/-! ## Reading a history -/

def answeredRecord : Call → Option SettlementRecord
  | ⟨.store (.reserve _ _), answer⟩ => some answer.1
  | ⟨.store (.advance _ _ _), answer⟩ => some answer.1
  | _ => none

/-- The value of the coordinator's variable `record`: the last record answered,
which is a zero record when that answer was a failure. -/
def lastRecord (history : History) : Option SettlementRecord :=
  history.foldl (fun record event => (answeredRecord event).or record) none

def storeFailed : Call → Bool
  | ⟨.store (.reserve _ _), answer⟩ => answer.2.2.isSome
  | ⟨.store (.advance _ _ _), answer⟩ => answer.2.isSome
  | ⟨.store (.markHeld _ _), answer⟩ => answer.isSome
  | ⟨.store (.markUnknown _ _), answer⟩ => answer.isSome
  | _ => false

def isMarkUnknown : Port → Bool
  | .store (.markUnknown _ _) => true
  | _ => false

def isMarkHeld : Port → Bool
  | .store (.markHeld _ _) => true
  | _ => false

def acceptedUpdate : Call → Option SagaUpdate
  | ⟨.store (.advance _ _ update), (_, none)⟩ => some update
  | _ => none

/-- What the accepted stage transitions of a history supplied for one field. -/
def persisted (field : SagaUpdate → String) (history : History) : String :=
  (history.filterMap acceptedUpdate).foldl (fun value update => supplied (field update) value) ""

/-- The order of the commands with an outside effect along a run; `0` for the rest. -/
def rank : Port → Nat
  | .ledger (.prepare _) => 1
  | .collect _ => 2
  | .submitTransfer _ => 3
  | .isFinal _ _ => 4
  | .payout _ => 5
  | .ledger (.commit _ _) => 6
  | .attest _ _ => 7
  | .ledger (.void _ _ _) => 8
  | _ => 0

/-- No command of rank `n` or more has been issued. -/
def Below (n : Nat) (history : History) : Prop := ∀ event ∈ history, rank event.call < n

def Owned (intent : Intent) (history : History) : Prop :=
  ∃ record, (⟨.store (.reserve intent (intentPayloadDigest intent)), (record, true, none)⟩ : Call) ∈
    history

/-- The run owns the saga, holds `record`, and has neither failed nor ended. -/
structure Live (intent : Intent) (record : SettlementRecord) (history : History) : Prop where
  owned : Owned intent history
  current : lastRecord history = some record
  clean : ∀ event ∈ history, storeFailed event = false
  unmarked : ∀ event ∈ history, isMarkUnknown event.call = false ∧ isMarkHeld event.call = false

/-- What `unknown` needs: the run owns the saga and has not marked it unknown. -/
structure Closable (intent : Intent) (record : SettlementRecord) (history : History) : Prop where
  owned : Owned intent history
  current : lastRecord history = some record
  unmarked : ∀ event ∈ history, isMarkUnknown event.call = false

/-! ## Evidence in a history -/

def custodyStage (intent : Intent) : String :=
  if intent.direction = .onramp then "custody_onramp" else "custody_offramp"

section
variable [CaseTables]

def Screened (intent : Intent) (history : History) : Prop :=
  ∃ screen, (⟨.screen (stageIntent intent "screen"), (screen, none)⟩ : Call) ∈ history ∧
    equalFold screen.decision "clear" = true

def Prepared (intent : Intent) (history : History) (pending : LedgerFact) : Prop :=
  (⟨.ledger (.prepare (stageIntent intent "ledger_prepare")), (pending, none)⟩ : Call) ∈ history ∧
    validateLedgerFact pending intent .prepared = none

def Committed (intent : Intent) (history : History) (pending committed : LedgerFact) : Prop :=
  (⟨.ledger (.commit (stageIntent intent "ledger_commit") pending), (committed, none)⟩ : Call) ∈
      history ∧
    validateLedgerFact committed intent .settled = none

end

def Collected (intent : Intent) (history : History) (fiat : ProviderResult) : Prop :=
  (⟨.collect (stageIntent intent "fiat_collect"), (fiat, none)⟩ : Call) ∈ history ∧
    settledFact fiat = true

def PaidOut (intent : Intent) (history : History) (fiat : ProviderResult) : Prop :=
  (⟨.payout (stageIntent intent "fiat_payout"), (fiat, none)⟩ : Call) ∈ history ∧
    settledFact fiat = true

def FiatSettled (intent : Intent) (history : History) (fiat : ProviderResult) : Prop :=
  if intent.direction = .onramp then Collected intent history fiat
  else PaidOut intent history fiat

def Submitted (intent : Intent) (history : History) (custody : ProviderResult) : Prop :=
  (⟨.submitTransfer (stageIntent intent (custodyStage intent)), (custody, none)⟩ : Call) ∈ history ∧
    settledFact custody = true ∧ trimSpace custody.blockchainTx ≠ ""

def Finalised (intent : Intent) (history : History) (custody : ProviderResult) : Prop :=
  Submitted intent history custody ∧
    (⟨.isFinal custody.blockchainTx intent.asset, (true, none)⟩ : Call) ∈ history

def Attested (intent : Intent) (history : History) (att : AttestationFact) : Prop :=
  (⟨.attest (stageIntent intent "fabric_attest") (intentPayloadDigest intent), (att, none)⟩ : Call) ∈
      history ∧
    att.digest = intentPayloadDigest intent ∧
    (⟨.verifyAttestation att, (true, none)⟩ : Call) ∈ history

def PersistedSettled (history : History) : Prop :=
  ∃ record update answered,
    (⟨.store (.advance record .settled update), (answered, none)⟩ : Call) ∈ history

/-- Collection was answered as a failure that is retryable without effect. -/
def ProvedNoEffect (intent : Intent) (history : History) : Prop :=
  ∃ fiat : ProviderResult,
    (⟨.collect (stageIntent intent "fiat_collect"), (fiat, none)⟩ : Call) ∈ history ∧
      fiat.state = .failed ∧ fiat.retryableWithoutEffect = true

variable [CaseTables]

/-! ## The contract -/

/-- What must precede a call that is neither the clock nor the saga store. -/
def effectGuar (intent : Intent) (history : History) : Port → Prop
  | .screen i => i = stageIntent intent "screen"
  | .route i => i = intent
  | .verifyLiquidity i _ => i = intent
  | .ledger (.prepare i) => i = stageIntent intent "ledger_prepare" ∧ Screened intent history
  | .collect i => i = stageIntent intent "fiat_collect" ∧ intent.direction = .onramp
  | .submitTransfer i => i = stageIntent intent (custodyStage intent) ∧
      (intent.direction = .onramp → ∃ fiat, Collected intent history fiat)
  | .isFinal tx asset => asset = intent.asset ∧
      ∃ custody, Submitted intent history custody ∧ custody.blockchainTx = tx
  | .payout i => i = stageIntent intent "fiat_payout" ∧ intent.direction ≠ .onramp ∧
      ∃ custody, Finalised intent history custody
  | .ledger (.commit i pending) => i = stageIntent intent "ledger_commit" ∧
      Prepared intent history pending ∧ Below 6 history ∧
      (∃ fiat, FiatSettled intent history fiat) ∧ ∃ custody, Finalised intent history custody
  | .ledger (.void i pending _) => i = stageIntent intent "ledger_void" ∧
      Prepared intent history pending ∧ Below 3 history ∧ ProvedNoEffect intent history
  | .attest i digest => i = stageIntent intent "fabric_attest" ∧
      digest = intentPayloadDigest intent ∧ ∃ pending committed, Committed intent history pending committed
  | .verifyAttestation att => att.digest = intentPayloadDigest intent
  | _ => False

/-- What must precede each call of a run of `Execute` on `intent`. -/
def coordinatorGuar (intent : Intent) (history : History) : Port → Prop
  | .now => history = []
  | .store (.reserve i digest) => i = intent ∧ digest = intentPayloadDigest intent ∧
      ∃ now, history = [⟨.now, now⟩] ∧ validateIntent now intent = none
  | .store (.advance record _ update) => Live intent record history ∧
      (update.ledgerPendingID ≠ 0 → ∃ pending, Prepared intent history pending ∧
        ledgerFactID pending = .ok update.ledgerPendingID)
  | .store (.markHeld record _) => Live intent record history
  | .store (.markUnknown record _) => Closable intent record history
  | port => (∃ record, Live intent record history) ∧
      (rank port ≠ 0 → ∀ event ∈ history, rank event.call ≠ rank port) ∧
      effectGuar intent history port

structure SettledEvidence (intent : Intent) (history : History) (result : ProviderResult) : Prop where
  screened : Screened intent history
  ledger : ∃ pending committed, Prepared intent history pending ∧
    Committed intent history pending committed
  fiat : ∃ fiat, FiatSettled intent history fiat ∧ fiat.reference = result.reference
  custody : ∃ custody, Finalised intent history custody ∧ custody.blockchainTx = result.blockchainTx
  attested : ∃ att, Attested intent history att
  settled : PersistedSettled history

/-- The last call asked for the stage unknown, or had the stage held accepted. -/
def Closed (history : History) : Prop :=
  ∃ before record reason,
    (∃ answer, history = before ++ [⟨.store (.markUnknown record reason), answer⟩]) ∨
      history = before ++ [⟨.store (.markHeld record reason), none⟩]

/-- How a finished run of `Execute` can have gone. -/
inductive Concluded (intent : Intent) : History → Outcome → Prop
  | refused (now : Time) (out : Outcome) : out.1.state ≠ .settled →
      Concluded intent [⟨.now, now⟩] out
  | unavailable (now : Time) (record : SettlementRecord) (owned : Bool) (err : GoError)
      (out : Outcome) : out.1.state ≠ .settled →
      Concluded intent [⟨.now, now⟩, ⟨.store (.reserve intent (intentPayloadDigest intent)),
        (record, owned, some err)⟩] out
  | replayed (now : Time) (record : SettlementRecord) :
      Concluded intent [⟨.now, now⟩, ⟨.store (.reserve intent (intentPayloadDigest intent)),
        (record, false, none)⟩] (resultFromRecord record)
  | closed (history : History) (out : Outcome) : Owned intent history → Closed history →
      out.1.state ≠ .settled → Concluded intent history out
  | settled (history : History) (result : ProviderResult) : Owned intent history →
      SettledEvidence intent history result →
      persisted SagaUpdate.blockchainTx history = result.blockchainTx →
      persisted SagaUpdate.providerReference history = result.reference →
      Concluded intent history (result, none)

end UmojaFlowOS.Settlement
