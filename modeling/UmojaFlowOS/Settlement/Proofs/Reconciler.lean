import UmojaFlowOS.Settlement.Proofs.Execute
import UmojaFlowOS.Settlement.Proofs.StoreContract
import UmojaFlowOS.Settlement.UnknownSagaReconciler

/-!
# What the reconciler may ask of its ports

The contract of one pass of `UnknownSagaReconciler` over one record, with every
port free to answer anything: which answers must precede a ledger commit, a
ledger void and a resolution of the saga.
-/

namespace UmojaFlowOS.Settlement

open Go Interaction

/-! ## Evidence in a history -/

section
variable (record : SettlementRecord) (history : History)

def Observed (observation : LedgerObservation) : Prop :=
  (⟨.ledger (.observe (recoveryIntent record) record.ledgerPendingID), (observation, none)⟩ : Call) ∈
    history

structure LegsQueried (fiat custody : ProviderResult) : Prop where
  fiat : (⟨.queryFiat (stageIntent (recoveryIntent record) (fiatStageOf (recoveryIntent record))),
    (fiat, none)⟩ : Call) ∈ history
  custody : (⟨.queryTransfer (stageIntent (recoveryIntent record)
    (custodyStageOf (recoveryIntent record))), (custody, none)⟩ : Call) ∈ history

/-- Both legs are settled and the custody transfer is final. -/
structure Effected (fiat custody : ProviderResult) : Prop where
  queried : LegsQueried record history fiat custody
  fiatSettled : settledFact fiat = true
  custodySettled : settledFact custody = true
  tx : trimSpace custody.blockchainTx ≠ ""
  final : (⟨.isFinal custody.blockchainTx record.asset, (true, none)⟩ : Call) ∈ history

/-- Both legs have failed without effect. -/
def Ineffective : Prop :=
  ∃ fiat custody, LegsQueried record history fiat custody ∧
    fiat.state = .failed ∧ fiat.retryableWithoutEffect = true ∧
    custody.state = .failed ∧ custody.retryableWithoutEffect = true

def Approved (decision : Decision) (auth : ResolutionAuthorization) : Prop :=
  (⟨.store (.findResolutionAuthorization record.tenantID record.sagaID decision),
    (auth, true, none)⟩ : Call) ∈ history

/-- What must precede a ledger commit of the pending transfer `pending`. -/
structure CommitEvidence (pending : LedgerFact) : Prop where
  observed : ∃ observation, Observed record history observation ∧
    observation.voided.exists = false ∧ observation.committed.exists = false ∧
    pending = ledgerFactFromObservation observation.pending .prepared
  effected : ∃ fiat custody, Effected record history fiat custody
  approved : ∃ auth, Approved record history .commit auth

structure VoidEvidence (pending : LedgerFact) : Prop where
  observed : ∃ observation, Observed record history observation ∧
    observation.voided.exists = false ∧ observation.committed.exists = false ∧
    pending = ledgerFactFromObservation observation.pending .prepared
  ineffective : Ineffective record history
  approved : ∃ auth, Approved record history .void auth

/-- The committed ledger fact: observed, or answered to the commit and validated. -/
def LedgerCommitted [CaseTables] (committed : LedgerFact) : Prop :=
  (∃ observation, Observed record history observation ∧ observation.committed.exists = true ∧
    committed = ledgerFactFromObservation observation.committed .settled) ∨
  ∃ pending, (⟨.ledger (.commit (stageIntent (recoveryIntent record) "ledger_commit") pending),
      (committed, none)⟩ : Call) ∈ history ∧
    validateLedgerFact committed (recoveryIntent record) .settled = none

/-- What must precede a resolution under a commit authorization. -/
structure SettleEvidence [CaseTables] (auth : ResolutionAuthorization) : Prop where
  approved : Approved record history .commit auth
  reconciled : ∃ fiat custody committed att, Effected record history fiat custody ∧
    LedgerCommitted record history committed ∧ Attested (recoveryIntent record) history att ∧
    reconcile committed { fiat with blockchainTx := custody.blockchainTx } att
      (intentPayloadDigest (recoveryIntent record)) = none

structure HoldEvidence (auth : ResolutionAuthorization) : Prop where
  approved : Approved record history .void auth
  voided : (∃ observation, Observed record history observation ∧
      observation.voided.exists = true) ∨
    ∃ pending reason,
      (⟨.ledger (.void (stageIntent (recoveryIntent record) "ledger_void") pending reason), none⟩ :
        Call) ∈ history

end

/-- What must precede each call of a pass over `record`. -/
def reconcilerGuar [CaseTables] (w : UnknownSagaReconciler) (record : SettlementRecord)
    (history : History) : Port → Prop
  | .ledger (.observe i pendingID) => i = recoveryIntent record ∧ pendingID = record.ledgerPendingID
  | .queryFiat i => i = stageIntent (recoveryIntent record) (fiatStageOf (recoveryIntent record))
  | .queryTransfer i => i = stageIntent (recoveryIntent record)
      (custodyStageOf (recoveryIntent record))
  | .isFinal _ asset => asset = record.asset
  | .store (.findResolutionAuthorization tenantID sagaID _) =>
    tenantID = record.tenantID ∧ sagaID = record.sagaID
  | .ledger (.commit i pending) => i = stageIntent (recoveryIntent record) "ledger_commit" ∧
      Below 6 history ∧ CommitEvidence record history pending
  | .ledger (.void i pending _) => i = stageIntent (recoveryIntent record) "ledger_void" ∧
      Below 6 history ∧ VoidEvidence record history pending
  | .attest i digest => i = stageIntent (recoveryIntent record) "fabric_attest" ∧
      digest = intentPayloadDigest (recoveryIntent record)
  | .verifyAttestation _ => True
  | .store (.resolveUnknownSaga current owner auth update) => current = record ∧ owner = w.owner ∧
      update.routeID = "" ∧ (SettleEvidence record history auth ∨ HoldEvidence record history auth)
  | _ => False

/-! ## Histories that grow -/

section
variable {record : SettlementRecord} {history : History}

theorem Approved.mono (approved : Approved record history decision auth) (grows : history ⊆ later) :
    Approved record later decision auth := grows approved

theorem LegsQueried.mono {fiat custody : ProviderResult}
    (queried : LegsQueried record history fiat custody) (grows : history ⊆ later) :
    LegsQueried record later fiat custody :=
  ⟨grows queried.fiat, grows queried.custody⟩

theorem Effected.mono (effected : Effected record history fiat custody) (grows : history ⊆ later) :
    Effected record later fiat custody :=
  ⟨effected.queried.mono grows, effected.fiatSettled, effected.custodySettled, effected.tx,
    grows effected.final⟩

theorem Ineffective.mono (ineffective : Ineffective record history) (grows : history ⊆ later) :
    Ineffective record later := by
  obtain ⟨fiat, custody, queried, failed⟩ := ineffective
  exact ⟨fiat, custody, queried.mono grows, failed⟩

theorem LedgerCommitted.mono [CaseTables] (given : LedgerCommitted record history committed)
    (grows : history ⊆ later) : LedgerCommitted record later committed := by
  rcases given with ⟨observation, observed, rest⟩ | ⟨pending, answered, valid⟩
  · exact .inl ⟨observation, grows observed, rest⟩
  · exact .inr ⟨pending, grows answered, valid⟩

end

/-! ## The pass keeps the contract -/

-- The pass is run symbolically: its pure checks are not to be unfolded.
attribute [local irreducible] trimSpace settledFact validateLedgerFact reconcile
  intentPayloadDigest ledgerFactFromObservation mustLedgerFactID

section
variable [CaseTables] {w : UnknownSagaReconciler} {record : SettlementRecord} {history : History}
  {α : Type}

abbrev reconcilerContract (w : UnknownSagaReconciler) (record : SettlementRecord) :
    Contract ports History :=
  onHistory anyAnswer (reconcilerGuar w record)

theorem reconciler_call {post : History → α → Prop} (below : Below n history)
    (allowed : reconcilerGuar w record history port) (grows : n ≤ m) (rank_lt : rank port < m)
    (next : ∀ answer later, history ⊆ later → (⟨port, answer⟩ : Call) ∈ later → Below m later →
      Meets (reconcilerContract w record) post later (rest answer)) :
    Meets (reconcilerContract w record) post history (call port >>= rest) :=
  meets_call_bind.mpr ⟨allowed, fun answer => next answer _ (List.subset_append_left _ _)
    (by simp) (below.snoc grows rank_lt)⟩

theorem approvalFor_meets {post : History → α → Prop} (below : Below n history) (positive : 0 < n)
    (fails : ∀ err later, Meets (reconcilerContract w record) post later (rest (.error err)))
    (finds : ∀ auth later, history ⊆ later → Approved record later decision auth → Below n later →
      Meets (reconcilerContract w record) post later (rest (.ok auth))) :
    Meets (reconcilerContract w record) post history (approvalFor record decision >>= rest) := by
  refine reconciler_call below ⟨rfl, rfl⟩ le_rfl positive ?_
  rintro ⟨auth, _ | _, _ | err⟩ later grows answered below
  · exact fails _ later
  · exact fails _ later
  · exact finds auth later grows answered below
  · exact fails _ later

theorem resolve_meets {rest : SettlementRecord × Option GoError → Saga (Option GoError)}
    (unrouted : update.routeID = "")
    (evidence : SettleEvidence record history auth ∨ HoldEvidence record history auth)
    (returns : ∀ answer, rest answer = .ret answer.2) :
    Meets (reconcilerContract w record) (fun _ _ => True) history
      (call (.store (.resolveUnknownSaga record w.owner auth update)) >>= rest) := by
  refine meets_call_bind.mpr ⟨⟨rfl, rfl, unrouted, evidence⟩, fun answer => ?_⟩
  rw [returns]
  trivial

variable {observation : LedgerObservation}

section
variable (below : Below 1 history) (observed : Observed record history observation)
include below observed

theorem resolveHeld_meets (voided : observation.voided.exists = true) :
    Meets (reconcilerContract w record) (fun _ _ => True) history (resolveHeld w record reason) := by
  refine approvalFor_meets below (by decide) (fun _ _ => trivial) ?_
  intro auth later grows approved _
  exact resolve_meets rfl (.inr ⟨approved, .inl ⟨observation, grows observed, voided⟩⟩) fun _ => rfl

theorem voidAndHold_meets (unvoided : observation.voided.exists = false)
    (uncommitted : observation.committed.exists = false)
    (ineffective : Ineffective record history) :
    Meets (reconcilerContract w record) (fun _ _ => True) history
      (voidAndHold w record (recoveryIntent record) observation reason) := by
  refine approvalFor_meets below (by decide) (fun _ _ => trivial) ?_
  intro auth later grows approved below
  refine reconciler_call (m := 9) below ⟨rfl, ?_, ?_⟩ (by decide) (by decide : 8 < 9) ?_
  · exact below.weaken (by decide)
  · exact ⟨⟨observation, grows observed, unvoided, uncommitted, rfl⟩, ineffective.mono grows,
      auth, approved⟩
  rintro (_ | err) last grows answered -
  · exact resolve_meets rfl (.inr ⟨approved.mono grows, .inr ⟨_, _, answered⟩⟩) fun _ => rfl
  · trivial

end

structure EffectsFound (record : SettlementRecord) (history : History) (found : CommercialEffects) :
    Prop where
  below : Below 6 history
  noEffect : found.noEffect = true → Below 1 history ∧ Ineffective record history
  effected : found.effects = true → found.final = true →
    Effected record history found.fiat found.custody

theorem observeCommercialEffects_meets (below : Below 1 history) :
    Meets (reconcilerContract w record) (fun later answer => ∀ found, answer = .ok found →
      history ⊆ later ∧ EffectsFound record later found) history
      (observeCommercialEffects (recoveryIntent record)) := by
  refine reconciler_call below rfl le_rfl (by decide : 0 < 1) ?_
  rintro ⟨fiat, _ | err⟩ later grows fiatAnswered below
  case some => rintro _ ⟨⟩
  refine reconciler_call below rfl le_rfl (by decide : 0 < 1) ?_
  rintro ⟨custody, _ | err⟩ last more custodyAnswered below
  case some => rintro _ ⟨⟩
  have queried : LegsQueried record last fiat custody := ⟨more fiatAnswered, custodyAnswered⟩
  have all := List.Subset.trans grows more
  dsimp only
  split
  · rintro _ ⟨⟩
    refine ⟨all, below.weaken (by decide), fun failed => ⟨below, fiat, custody, queried, ?_⟩, nofun⟩
    simpa [and_assoc] using failed
  rename_i settled
  simp only [not_or, not_not] at settled
  refine reconciler_call (m := 6) below rfl (by decide) (by decide : 4 < 6) ?_
  rintro ⟨final, _ | err⟩ checked grown answered below
  case some => rintro _ ⟨⟩
  rintro _ ⟨⟩
  refine ⟨List.Subset.trans all grown, below, nofun, fun _ isFinal => ?_⟩
  obtain rfl : final = true := isFinal
  exact ⟨queried.mono grown, settled.1, settled.2.1, settled.2.2, answered⟩

theorem ensureCommitted_meets (below : Below 6 history)
    (observed : Observed record history observation) (unvoided : observation.voided.exists = false)
    (effected : Effected record history fiat custody) :
    Meets (reconcilerContract w record) (fun later answer => ∀ committed, answer = .ok committed →
      history ⊆ later ∧ LedgerCommitted record later committed ∧ Below 7 later) history
      (ensureCommitted record (recoveryIntent record) observation) := by
  unfold ensureCommitted
  split
  case isTrue already =>
    rintro _ ⟨⟩
    exact ⟨List.Subset.refl _, .inl ⟨observation, observed, already, rfl⟩, below.weaken (by decide)⟩
  case isFalse notYet =>
    refine approvalFor_meets below (by decide) (fun _ _ => nofun) ?_
    intro auth later grows approved below
    refine reconciler_call (m := 7) below ⟨rfl, below, ?_⟩ (by decide) (by decide : 6 < 7) ?_
    · exact ⟨⟨observation, grows observed, unvoided, by simpa using notYet, rfl⟩,
        ⟨fiat, custody, effected.mono grows⟩, auth, approved⟩
    rintro ⟨committed, _ | err⟩ last more answered below
    case some => rintro _ ⟨⟩
    dsimp only
    split
    · exact nofun
    rename_i valid
    rintro _ ⟨⟩
    exact ⟨List.Subset.trans grows more,
      .inr ⟨_, answered, Option.eq_none_iff_forall_ne_some.mpr valid⟩, below⟩

/-- The saga is settled after the attestation of a committed transfer. -/
theorem attestAndSettle_meets
    (below : Below 7 history) (effected : Effected record history fiat custody)
    (given : LedgerCommitted record history committed) :
    Meets (reconcilerContract w record) (fun _ _ => True) history
      (attestAndSettle w record (recoveryIntent record) fiat custody committed) := by
  refine approvalFor_meets below (by decide) (fun _ _ => trivial) ?_
  intro auth later grows approved below
  refine reconciler_call (m := 8) below ⟨rfl, rfl⟩ (by decide) (by decide : 7 < 8) ?_
  rintro ⟨att, err⟩ attested more answered below
  dsimp only
  split
  · trivial
  rename_i digested
  simp only [not_or, Option.not_isSome_iff_eq_none, not_not] at digested
  obtain ⟨rfl, digest, -⟩ := digested
  refine reconciler_call (m := 8) below trivial le_rfl (by decide : 0 < 8) ?_
  rintro ⟨verified, err⟩ last further checked -
  split
  · trivial
  rename_i accepted
  simp only [not_or, Option.not_isSome_iff_eq_none, not_not] at accepted
  obtain ⟨rfl, rfl⟩ := accepted
  split
  · trivial
  rename_i agrees
  have all := List.Subset.trans grows (List.Subset.trans more further)
  exact resolve_meets rfl (.inl ⟨approved.mono (List.Subset.trans more further), fiat, custody,
    committed, att, effected.mono all, given.mono all, ⟨further answered, digest, checked⟩,
    Option.eq_none_iff_forall_ne_some.mpr agrees⟩) fun _ => rfl

/-- Every pass keeps the contract of its record. -/
theorem reconcileRecord_meets (w : UnknownSagaReconciler) (record : SettlementRecord) :
    Meets (reconcilerContract w record) (fun _ _ => True) [] (reconcileRecord w record) := by
  unfold reconcileRecord
  split
  · trivial
  have none : Below 1 [] := fun _ absent => absurd absent List.not_mem_nil
  refine reconciler_call none ⟨rfl, rfl⟩ le_rfl (by decide : 0 < 1) ?_
  rintro ⟨observation, _ | err⟩ history - observed below
  case some => trivial
  dsimp only
  split
  case isTrue voided => exact resolveHeld_meets below observed voided
  case isFalse notVoided =>
    have unvoided : observation.voided.exists = false := by simpa using notVoided
    refine (observeCommercialEffects_meets below).bind ?_
    rintro later (err | found) told
    case error => trivial
    obtain ⟨grows, effects⟩ := told found rfl
    dsimp only
    split
    case isTrue failed =>
      obtain ⟨below, ineffective⟩ := effects.noEffect failed.1
      exact voidAndHold_meets below (grows observed) unvoided (by simpa using failed.2) ineffective
    case isFalse =>
      split
      · trivial
      rename_i complete
      simp only [not_or, not_not] at complete
      have effected := effects.effected complete.1 complete.2
      refine (ensureCommitted_meets effects.below (grows observed) unvoided effected).bind ?_
      rintro last (err | committed) told
      case error => trivial
      obtain ⟨more, given, below⟩ := told committed rfl
      exact attestAndSettle_meets below (effected.mono more) given

end

end UmojaFlowOS.Settlement
