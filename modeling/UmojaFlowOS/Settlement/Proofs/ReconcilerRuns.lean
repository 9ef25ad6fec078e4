import UmojaFlowOS.Settlement.Proofs.CoordinatorRuns
import UmojaFlowOS.Settlement.Proofs.Reconciler

/-!
# Runs of the reconciler

What every run of `ReconcileOnce` satisfies, finished or stopped between two
calls, with the ports answering anything: it claims a batch, and its further
calls are passes over the claimed records in order, each of which keeps the
contract of its record.
-/

namespace UmojaFlowOS.Settlement

open Go Interaction

/-- The commands that start a commercial effect or a new pending transfer. -/
def startsEffect : Port → Bool
  | .collect _ => true
  | .payout _ => true
  | .submitTransfer _ => true
  | .ledger (.prepare _) => true
  | _ => false

/-- Every authorization the store found is one for the decision asked for. -/
def FoundAsAsked (history : History) : Prop :=
  ∀ tenantID sagaID decision auth,
    (⟨.store (.findResolutionAuthorization tenantID sagaID decision), (auth, true, none)⟩ : Call) ∈
      history → auth.decision = decision

section
variable [CaseTables]

structure SafePass (w : UnknownSagaReconciler) (record : SettlementRecord) (history : History) :
    Prop where
  commits : ∀ before i pending answer after,
    history = before ++ ⟨.ledger (.commit i pending), answer⟩ :: after →
    CommitEvidence record before pending
  voids : ∀ before i pending reason answer after,
    history = before ++ ⟨.ledger (.void i pending reason), answer⟩ :: after →
    VoidEvidence record before pending
  notBoth : ∀ i pending committed, (⟨.ledger (.commit i pending), committed⟩ : Call) ∈ history →
    ∀ j other reason voided, (⟨.ledger (.void j other reason), voided⟩ : Call) ∉ history
  silent : ∀ event ∈ history, startsEffect event.call = false
  resolves : ∀ before current owner auth update answer after,
    history = before ++ ⟨.store (.resolveUnknownSaga current owner auth update), answer⟩ :: after →
    current = record ∧ owner = w.owner ∧
      (SettleEvidence record before auth ∨ HoldEvidence record before auth)
  settles : FoundAsAsked history → ∀ before current owner auth update answer after,
    history = before ++ ⟨.store (.resolveUnknownSaga current owner auth update), answer⟩ :: after →
    auth.decision = .commit → SettleEvidence record before auth

variable {w : UnknownSagaReconciler} {record : SettlementRecord} {history : History}
  {rest : Saga (Option GoError)}

section
variable (ran : Run (reconcileRecord w record) history rest)
include ran

theorem reconcilerGuar_of_run
    (split : history = before ++ event :: after) : reconcilerGuar w record before event.call :=
  ((reconcileRecord_meets w record).run_history ran).1 before event after split

theorem not_commit_and_void_of_pass
    (commits : (⟨.ledger (.commit i pending), committed⟩ : Call) ∈ history)
    (voids : (⟨.ledger (.void j other reason), voided⟩ : Call) ∈ history) : False := by
  have different : Port.ledger (.commit i pending) ≠ .ledger (.void j other reason) := nofun
  rcases ordered_of_mem different commits voids with
    ⟨before, after, split, earlier⟩ | ⟨before, after, split, earlier⟩
  · obtain ⟨-, below, -⟩ := reconcilerGuar_of_run ran split
    exact absurd (below _ earlier) (by decide : ¬ 6 < 6)
  · obtain ⟨-, below, -⟩ := reconcilerGuar_of_run ran split
    exact absurd (below _ earlier) (by decide : ¬ 8 < 6)

theorem safePass_of_run :
    SafePass w record history where
  commits before i pending answer after split := (reconcilerGuar_of_run ran split).2.2
  voids before i pending reason answer after split := (reconcilerGuar_of_run ran split).2.2
  notBoth i pending committed commits j other reason voided voids :=
    not_commit_and_void_of_pass ran commits voids
  silent event present := by
    obtain ⟨before, after, split⟩ := List.append_of_mem present
    have allowed := reconcilerGuar_of_run ran split
    obtain ⟨port, answer⟩ := event
    cases port with
    | collect | payout | submitTransfer => exact absurd allowed id
    | ledger call =>
      cases call with
      | prepare => exact absurd allowed id
      | _ => rfl
    | _ => rfl
  resolves before current owner auth update answer after split := by
    obtain ⟨same, worker, -, evidence⟩ := reconcilerGuar_of_run ran split
    exact ⟨same, worker, evidence⟩
  settles asked before current owner auth update answer after split commit := by
    obtain ⟨-, -, -, evidence | evidence⟩ := reconcilerGuar_of_run ran split
    · exact evidence
    have void := asked _ _ _ _ (by rw [split]; exact List.mem_append_left _ evidence.approved)
    rw [commit] at void
    cases void

end

theorem passes_of_run {rest : Saga (Nat × Option GoError)}
    (ran : Run (reconcileAll w resolved records) history rest) :
    ∃ passes : List (SettlementRecord × History), history = (passes.map Prod.snd).flatten ∧
      passes.map Prod.fst <+: records ∧
      ∀ pass ∈ passes, ∃ rest, Run (reconcileRecord w pass.1) pass.2 rest := by
  induction records generalizing resolved history with
  | nil =>
    obtain ⟨rfl, -⟩ := run_ret_iff.mp ran
    exact ⟨[], rfl, List.nil_prefix, by simp⟩
  | cons record records ih =>
    rcases run_bind ran with ⟨part, pass, -⟩ | ⟨first, second, err, rfl, pass, later⟩
    · exact ⟨[(record, history)], by simp, by simp, by simpa using ⟨part, pass⟩⟩
    rcases err with _ | err
    case some =>
      obtain ⟨rfl, -⟩ := run_ret_iff.mp later
      exact ⟨[(record, first)], by simp, by simp, by simpa using ⟨_, pass⟩⟩
    obtain ⟨passes, rfl, named, runs⟩ := ih later
    refine ⟨(record, first) :: passes, by simp, by simpa using named, ?_⟩
    exact List.forall_mem_cons.mpr ⟨⟨_, pass⟩, runs⟩

/-- A run of `ReconcileOnce` is a claim and passes over claimed records. -/
theorem passes_of_reconcileOnce {rest : Saga (Nat × Option GoError)}
    (ran : Run (reconcileOnce w tenantID) history rest) :
    ∃ (claim : History) (passes : List (SettlementRecord × History)),
      history = claim ++ (passes.map Prod.snd).flatten ∧
      (∀ event ∈ claim,
        event.call = .store (.claimUnknownSagas tenantID w.owner w.batchSize w.lease)) ∧
      ∀ pass ∈ passes,
        (∃ records, (⟨.store (.claimUnknownSagas tenantID w.owner w.batchSize w.lease),
          (records, none)⟩ : Call) ∈ claim ∧ pass.1 ∈ records) ∧
        ∃ rest, Run (reconcileRecord w pass.1) pass.2 rest := by
  unfold reconcileOnce at ran
  split at ran
  · obtain ⟨rfl, -⟩ := run_ret_iff.mp ran
    exact ⟨[], [], rfl, by simp, by simp⟩
  rcases history with _ | ⟨event, history⟩
  · exact ⟨[], [], rfl, by simp, by simp⟩
  obtain ⟨⟨records, err⟩, rfl, later⟩ := run_call_cons_iff.mp ran
  rcases err with _ | err
  case some =>
    obtain ⟨rfl, -⟩ := run_ret_iff.mp later
    exact ⟨[_], [], rfl, by simp, by simp⟩
  obtain ⟨passes, rfl, named, runs⟩ := passes_of_run later
  refine ⟨[_], passes, rfl, by simp, fun pass present => ⟨⟨records, by simp, ?_⟩, runs pass present⟩⟩
  exact named.subset (List.mem_map_of_mem present)

end

namespace PostgresSagaStore

/-- An answer that finds no authorization but one of the decision asked for. -/
def AsAsked (decision : Decision) (_ : List (Event sql))
    (answer : ResolutionAuthorization × Bool × Option GoError) : Prop :=
  answer.2.1 = true → answer.1.decision = decision

theorem findTx_asked (tenantID sagaID : String) (decision : Decision) (history : List (Event sql)) :
    Meets (onHistory anyAnswer fun _ _ => True) (AsAsked decision) history
      (findTx tenantID sagaID decision) := by
  refine ⟨trivial, fun now _ => ⟨trivial, ?_⟩⟩
  rintro (err | a) -
  · cases err
    case noRows =>
      refine ⟨trivial, ?_⟩
      rintro (err | _) - <;> rintro ⟨⟩
    all_goals rintro ⟨⟩
  refine ⟨trivial, fun now _ => ?_⟩
  dsimp only [Program.bind]
  split
  · rintro ⟨⟩
  rename_i valid
  refine ⟨trivial, ?_⟩
  rintro (err | _) -
  · rintro ⟨⟩
  intro _
  simp only [not_not, validResolutionAuthorization, Bool.and_eq_true, decide_eq_true_eq] at valid
  exact valid.1.1.1.1.1.1.2

theorem decision_of_found {tenantID sagaID : String}
    (ran : Run (findResolutionAuthorization tenantID sagaID decision) statements
      (.ret (auth, true, none))) : auth.decision = decision := by
  have meets : Meets (onHistory anyAnswer fun _ _ => True) (AsAsked decision) []
      (findResolutionAuthorization tenantID sagaID decision) := by
    unfold findResolutionAuthorization
    split
    · rintro ⟨⟩
    unfold withTx
    split
    · rintro ⟨⟩
    refine ⟨trivial, ?_⟩
    rintro (err | _) -
    · rintro ⟨⟩
    · exact (findTx_asked tenantID sagaID decision _).bind fun _ _ asked =>
        ⟨trivial, fun _ _ => asked⟩
  exact (meets.run_history ran).2 _ rfl rfl

end PostgresSagaStore

theorem validDigest_of_ok {row : SagaRow} (ok : row.ok = true) :
    validDigest row.record.payloadSHA256 = true := by
  simp only [SagaRow.ok, SagaRow.passes, Bool.and_eq_true] at ok
  exact ok.1.1.1.1.1.1.1.1.1

theorem digest_of_claimed {row : SagaRow} (ok : row.ok = true) :
    intentPayloadDigest (recoveryIntent row.record) = row.record.payloadSHA256 :=
  if_pos (validDigest_of_ok ok)

variable [CaseTables]

/-- The safety of `ReconcileOnce` under arbitrary ports. -/
theorem reconcileOnce_is_safe {w : UnknownSagaReconciler} {tenantID : String} {history : History}
    {rest : Saga (Nat × Option GoError)} (ran : Run (reconcileOnce w tenantID) history rest) :
    (∃ (claim : History) (passes : List (SettlementRecord × History)),
      history = claim ++ (passes.map Prod.snd).flatten ∧
      (∀ event ∈ claim,
        event.call = .store (.claimUnknownSagas tenantID w.owner w.batchSize w.lease)) ∧
      ∀ pass ∈ passes,
        (∃ records, (⟨.store (.claimUnknownSagas tenantID w.owner w.batchSize w.lease),
          (records, none)⟩ : Call) ∈ claim ∧ pass.1 ∈ records) ∧
        SafePass w pass.1 pass.2) ∧
    (∀ row : SagaRow, row.ok = true →
      intentPayloadDigest (recoveryIntent row.record) = row.record.payloadSHA256) ∧
    ∀ tenantID sagaID decision statements auth,
      Run (PostgresSagaStore.findResolutionAuthorization tenantID sagaID decision) statements
        (.ret (auth, true, none)) → auth.decision = decision := by
  refine ⟨?_, fun row ok => digest_of_claimed ok, fun _ _ _ _ _ found =>
    PostgresSagaStore.decision_of_found found⟩
  obtain ⟨claim, passes, split, claimed, runs⟩ := passes_of_reconcileOnce ran
  refine ⟨claim, passes, split, claimed, fun pass present => ?_⟩
  obtain ⟨named, rest, pass⟩ := runs pass present
  exact ⟨named, safePass_of_run pass⟩

/-! ## A pass that settles -/

def unknownDepositRecord : SettlementRecord :=
  { tenantID := "tenant-a", sagaID := "saga-1", intentID := "intent-1", idempotencyKey := "key-1",
    payloadSHA256 := depositIntent.payloadSHA256, direction := .onramp, asset := "USDC",
    fiat := "KES", amountMinor := 2500, destination := "wallet-1", stage := .unknown,
    ledgerPendingID := 41, version := 6 }

def recoveringPorts : (port : Port) → port.Answer
  | .store (.claimUnknownSagas _ _ _ _) => ([unknownDepositRecord], none)
  | .store (.findResolutionAuthorization tenantID sagaID decision) =>
    ({ tenantID := tenantID, sagaID := sagaID, decision := decision, authorizationID := "auth-1" },
      true, none)
  | .ledger (.observe _ pendingID) =>
    ({ pending := ⟨pendingID, 0, 1, 2, 2500, "KES", .pending, true⟩ }, none)
  | .queryFiat _ => ({ reference := "mpesa-1", state := .settled }, none)
  | .queryTransfer _ => ({ reference := "custody-1", blockchainTx := "0xabc", state := .settled }, none)
  | port => confirmingPorts port

omit [CaseTables] in
/-- A worker that finds the deposit settled commits it and resolves the saga. -/
theorem recovery_of_deposit_is_safe :
    let w : UnknownSagaReconciler := { owner := "worker", batchSize := 10, lease := 60 }
    let program := @reconcileOnce asciiTables w "tenant-a"
    program.value recoveringPorts = (1, none) ∧ (program.trace recoveringPorts).length = 11 ∧
      ∃ (claim : History) (passes : List (SettlementRecord × History)),
        program.trace recoveringPorts = claim ++ (passes.map Prod.snd).flatten ∧
        ∀ pass ∈ passes, @SafePass asciiTables w pass.1 pass.2 := by
  refine ⟨by decide, by decide, ?_⟩
  obtain ⟨⟨claim, passes, split, -, safe⟩, -⟩ :=
    @reconcileOnce_is_safe asciiTables _ _ _ _ (run_trace (P := ports) recoveringPorts _)
  exact ⟨claim, passes, split, fun pass present => (safe pass present).2⟩

end UmojaFlowOS.Settlement
