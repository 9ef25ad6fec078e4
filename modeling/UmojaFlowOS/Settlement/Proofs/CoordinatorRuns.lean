import UmojaFlowOS.Settlement.Proofs.Execute

/-!
# Runs of the coordinator

What every run of `Execute` satisfies, finished or stopped between two calls,
with the ports answering anything.
-/

namespace UmojaFlowOS.Settlement

open Go Interaction

variable [CaseTables] {c : Coordinator} {intent : Intent} {trace : History} {rest : Saga Outcome}

theorem guar_of_run (ran : Run (execute c intent) trace rest)
    (split : trace = before ++ event :: after) : coordinatorGuar intent before event.call :=
  ((execute_meets c intent).run_history ran).1 before event after split

theorem concluded_of_run (ran : Run (execute c intent) trace (.ret out)) :
    Concluded intent trace out :=
  ((execute_meets c intent).run_history ran).2 out rfl

theorem Concluded.evidence (concluded : Concluded intent trace out) (owned : Owned intent trace)
    (settled : out.1.state = .settled) : SettledEvidence intent trace out.1 := by
  obtain ⟨record, inserted⟩ := owned
  cases concluded with
  | refused _ _ unsettled | closed _ _ _ _ unsettled => exact absurd settled unsettled
  | unavailable | replayed => simp at inserted
  | settled _ _ _ evidence => exact evidence

omit [CaseTables] in
/-- Of two calls of a run, one comes first. -/
theorem ordered_of_mem {history : History} (ne : first.call ≠ second.call)
    (left : first ∈ history) (right : second ∈ history) :
    (∃ before after, history = before ++ second :: after ∧ first ∈ before) ∨
      ∃ before after, history = before ++ first :: after ∧ second ∈ before := by
  obtain ⟨before, after, rfl⟩ := List.append_of_mem left
  rcases List.mem_append.mp right with early | late
  · exact .inr ⟨before, after, rfl, early⟩
  rcases List.mem_cons.mp late with same | late
  · exact absurd (congrArg Event.call same).symm ne
  obtain ⟨middle, after, rfl⟩ := List.append_of_mem late
  exact .inl ⟨before ++ first :: middle, after, by simp, by simp⟩

theorem not_commit_and_void (ran : Run (execute c intent) trace rest)
    (commits : (⟨.ledger (.commit i pending), committed⟩ : Call) ∈ trace)
    (voids : (⟨.ledger (.void j other reason), voided⟩ : Call) ∈ trace) : False := by
  have different : Port.ledger (.commit i pending) ≠ .ledger (.void j other reason) := nofun
  rcases ordered_of_mem different commits voids with
    ⟨before, after, split, earlier⟩ | ⟨before, after, split, earlier⟩
  · obtain ⟨-, -, -, -, below, -⟩ := guar_of_run ran split
    exact absurd (below _ earlier) (by decide : ¬ 6 < 3)
  · obtain ⟨-, -, -, -, below, -⟩ := guar_of_run ran split
    exact absurd (below _ earlier) (by decide : ¬ 8 < 6)

/-- The safety of one `Execute` under arbitrary ports. -/
theorem execute_settles_with_evidence (ran : Run (execute c intent) trace rest) :
    (∀ result err, rest = .ret (result, err) → Owned intent trace → result.state = .settled →
      SettledEvidence intent trace result) ∧
    (∀ before i answer after, trace = before ++ ⟨.submitTransfer i, answer⟩ :: after →
      intent.direction = .onramp → ∃ fiat, Collected intent before fiat) ∧
    (∀ before i answer after, trace = before ++ ⟨.payout i, answer⟩ :: after →
      intent.direction ≠ .onramp ∧ ∃ custody, Finalised intent before custody) ∧
    (∀ before i pending reason answer after,
      trace = before ++ ⟨.ledger (.void i pending reason), answer⟩ :: after →
      ProvedNoEffect intent before) ∧
    ∀ i pending committed, (⟨.ledger (.commit i pending), committed⟩ : Call) ∈ trace →
      ∀ j other reason voided, (⟨.ledger (.void j other reason), voided⟩ : Call) ∉ trace := by
  refine ⟨?_, ?_, ?_, ?_, ?_⟩
  · rintro result err rfl owned settled
    exact (concluded_of_run ran).evidence owned settled
  · intro before i answer after split onramp
    obtain ⟨-, -, -, collected⟩ := guar_of_run ran split
    exact collected onramp
  · intro before i answer after split
    obtain ⟨-, -, -, offramp, finalised⟩ := guar_of_run ran split
    exact ⟨offramp, finalised⟩
  · intro before i pending reason answer after split
    obtain ⟨-, -, -, -, -, proved⟩ := guar_of_run ran split
    exact proved
  · intro i pending committed commits j other reason voided voids
    exact not_commit_and_void ran commits voids

/-! ## A run that settles -/

def insertsSaga (intent : Intent) : Call → Bool
  | ⟨.store (.reserve i digest), (_, true, none)⟩ =>
    i = intent && digest = intentPayloadDigest intent
  | _ => false

omit [CaseTables] in
theorem owned_of_any (inserts : history.any (insertsSaga intent) = true) :
    Owned intent history := by
  obtain ⟨event, present, inserted⟩ := List.any_eq_true.mp inserts
  unfold insertsSaga at inserted
  split at inserted
  · obtain ⟨rfl, rfl⟩ : _ = intent ∧ _ = intentPayloadDigest intent := by simpa using inserted
    exact ⟨_, present⟩
  · cases inserted

def confirmingPorts : (port : Port) → port.Answer
  | .now => 1
  | .store (.reserve _ digest) =>
    ({ payloadSHA256 := digest, stage := .received, version := 1 }, true, none)
  | .store (.advance current next update) => (recordWithUpdate current next update 1, none)
  | .store (.markHeld _ _) => none
  | .store (.markUnknown _ _) => none
  | .store (.claimUnknownSagas _ _ _ _) => ([], none)
  | .store (.findResolutionAuthorization _ _ _) => ({}, false, none)
  | .store (.resolveUnknownSaga _ _ _ _) => ({}, none)
  | .screen _ => (⟨"Clear", "case-1", ""⟩, none)
  | .route _ => (⟨⟨"route-1", "tenant-a", "KE", "KE", "KES", "KES", .onramp, "USDC", [], [], 1, 9,
      1, 0, 0, true, 1⟩, "provider-1", "rail-1", 1, ""⟩, none)
  | .verifyLiquidity _ _ => (⟨true, ""⟩, none)
  | .ledger (.prepare intent) => (⟨"41", "1", "2", intent.amountMinor, intent.fiat, "prepared"⟩, none)
  | .ledger (.commit intent _) => (⟨"42", "1", "2", intent.amountMinor, intent.fiat, "settled"⟩, none)
  | .ledger (.void _ _ _) => none
  | .ledger (.observe _ _) => ({}, none)
  | .collect _ => ({ reference := "mpesa-1", state := .settled }, none)
  | .payout _ => ({ reference := "mpesa-1", state := .settled }, none)
  | .queryFiat _ => ({}, none)
  | .submitTransfer _ => ({ reference := "custody-1", blockchainTx := "0xabc", state := .settled }, none)
  | .queryTransfer _ => ({}, none)
  | .isFinal _ _ => (true, none)
  | .attest _ digest => (⟨"att-1", "", "evidence-1", digest⟩, none)
  | .verifyAttestation _ => (true, none)

omit [CaseTables] in
/-- A deposit whose ports all confirm runs to the settled result with its evidence. -/
theorem deposit_settles_with_evidence :
    let program := @execute asciiTables {} depositIntent
    (program.value confirmingPorts).1.reference = "mpesa-1" ∧
      @SettledEvidence asciiTables depositIntent (program.trace confirmingPorts)
        (program.value confirmingPorts).1 := by
  refine ⟨by decide, ?_⟩
  have ran := run_trace (P := ports) confirmingPorts (@execute asciiTables {} depositIntent)
  exact (@execute_settles_with_evidence asciiTables _ _ _ _ ran).1 _ _ rfl
    (owned_of_any (by decide)) (by decide)

end UmojaFlowOS.Settlement
