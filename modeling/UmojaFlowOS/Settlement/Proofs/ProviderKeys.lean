import UmojaFlowOS.Settlement.Proofs.ProviderQueries

/-!
# Idempotency keys at the providers

The `Idempotency-Key` of a provider request is the key of the intent with the stage behind
its last colon. It tells keys and stages apart, and not tenants.
-/

namespace UmojaFlowOS.Settlement

open Go Interaction

def ProviderCall.stage (intent : Intent) : ProviderCall → Option String
  | collect _ => some "fiat_collect"
  | payout _ => some "fiat_payout"
  | submitTransfer _ => some (custodyStage intent)
  | _ => none

/-- Some run of `Execute` on the intent, finished or stopped, sends a command for the
stage, and some exchange over HTTP for that command has sent the request. -/
def Commands [CaseTables] (intent : Intent) (stage : String) (request : HttpRequest) : Prop :=
  ∃ (c : Coordinator) (trace : History) (rest : Saga Outcome) (command : ProviderCall)
    (result : command.port.Answer) (rails : Rails) (sending : List (Event http))
    (left : Program http (ProviderResult × Option GoError)) (exchange : Event http),
    Run (execute c intent) trace rest ∧ (⟨command.port, result⟩ : Call) ∈ trace ∧
      command.stage intent = some stage ∧ Run (command.serve rails) sending left ∧
      exchange ∈ sending ∧ exchange.call = request

theorem colon_notMem_custodyStage (intent : Intent) : ':' ∉ (custodyStage intent).toList := by
  unfold custodyStage
  split <;> decide

section
variable [CaseTables] {intent : Intent} {stage : String} {request : HttpRequest}

/-- The key sent for a command is that of the intent, with the stage. -/
theorem Commands.key (sent : Commands intent stage request) :
    request.idempotencyKey = some (intent.idempotencyKey ++ ":" ++ stage) ∧ ':' ∉ stage.toList := by
  obtain ⟨c, trace, rest, command, result, rails, sending, left, exchange, executed, commanded,
    staged, served, present, rfl⟩ := sent
  obtain ⟨key, -⟩ := sent_of_run served present
  obtain ⟨collects, pays, submits⟩ := command_of_run executed commanded
  rw [key]
  cases command with
  | collect i =>
    cases staged
    rw [ProviderCall.intent, (collects i rfl).1]
    exact ⟨rfl, by decide⟩
  | payout i =>
    cases staged
    rw [ProviderCall.intent, (pays i rfl).1]
    exact ⟨rfl, by decide⟩
  | submitTransfer i =>
    cases staged
    rw [ProviderCall.intent, submits i rfl]
    exact ⟨rfl, colon_notMem_custodyStage intent⟩
  | _ => cases staged

end

theorem append_cons_inj_of_last {α : Type} {c : α} {first second before after : List α}
    (left : c ∉ before) (right : c ∉ after)
    (same : first ++ c :: before = second ++ c :: after) : first = second ∧ before = after := by
  rcases List.append_eq_append_iff.mp same with ⟨between, rfl, rest⟩ | ⟨between, rfl, rest⟩
  · cases between with
    | nil =>
      cases rest
      exact ⟨(List.append_nil _).symm, rfl⟩
    | cons other between =>
      cases rest
      exact absurd (by simp) left
  cases between with
  | nil =>
    cases rest
    exact ⟨List.append_nil _, rfl⟩
  | cons other between =>
    cases rest
    exact absurd (by simp) right

/-- The last colon separates key and stage. -/
theorem stageKey_inj (left : ':' ∉ before.toList) (right : ':' ∉ after.toList) :
    first ++ ":" ++ before = second ++ ":" ++ after ↔ first = second ∧ before = after := by
  constructor
  · intro same
    have texts := congrArg String.toList same
    simp only [String.toList_append, List.append_assoc] at texts
    obtain ⟨keys, stages⟩ := append_cons_inj_of_last left right texts
    exact ⟨String.toList_injective keys, String.toList_injective stages⟩
  · rintro ⟨rfl, rfl⟩
    rfl

/-- Two commands have different keys at the provider unless they agree in tenant, key and
stage: this holds of them exactly if commands with one key and stage are of one tenant. -/
theorem provider_keys_apart_iff [CaseTables] {first second : Intent} {stage other : String}
    {request again : HttpRequest} (sent : Commands first stage request)
    (sentAgain : Commands second other again) :
    (request.idempotencyKey = again.idempotencyKey →
      first.tenantID = second.tenantID ∧ first.idempotencyKey = second.idempotencyKey ∧
        stage = other) ↔
    (first.idempotencyKey = second.idempotencyKey → stage = other →
      first.tenantID = second.tenantID) := by
  obtain ⟨key, plain⟩ := sent.key
  obtain ⟨keyAgain, plainAgain⟩ := sentAgain.key
  rw [key, keyAgain, Option.some_inj, stageKey_inj plain plainAgain]
  constructor
  · intro apart same staged
    exact (apart ⟨same, staged⟩).1
  · rintro tenants ⟨same, staged⟩
    exact ⟨tenants same staged, same, staged⟩

/-! ## Two tenants -/

def otherDeposit : Intent := { depositIntent with tenantID := "tenant-b", id := "intent-b" }

def collectRequest (intent : Intent) : HttpRequest :=
  providerRequest providerRails.fiat "POST" "collect"
    (intentPayload (stageIntent intent "fiat_collect")) (intent.idempotencyKey ++ ":fiat_collect")

theorem commands_collect
    (collected : ((@execute asciiTables {} intent).trace confirmingPorts).any (fun event =>
      event.call = .collect (stageIntent intent "fiat_collect")) = true)
    (text : (stageIntent intent "fiat_collect").idempotencyKey =
      intent.idempotencyKey ++ ":fiat_collect") :
    @Commands asciiTables intent "fiat_collect" (collectRequest intent) := by
  let := asciiTables
  obtain ⟨⟨port, result⟩, listed, same⟩ := List.any_eq_true.mp collected
  obtain rfl : port = .collect (stageIntent intent "fiat_collect") := of_decide_eq_true same
  refine ⟨{}, _, _, .collect (stageIntent intent "fiat_collect"), result, providerRails, _, _, _,
    run_trace (P := ports) confirmingPorts _, listed, rfl,
    run_trace (P := http) confirmingProvider _, List.mem_cons_self .., ?_⟩
  rw [collectRequest, ← text]

theorem deposit_is_collected :
    @Commands asciiTables depositIntent "fiat_collect" (collectRequest depositIntent) :=
  commands_collect (by decide) (by decide)

theorem otherDeposit_is_collected :
    @Commands asciiTables otherDeposit "fiat_collect" (collectRequest otherDeposit) :=
  commands_collect (by decide) (by decide)

/-- Deposits of two tenants under one key are sent under one key. -/
theorem deposits_are_not_apart :
    ¬ (depositIntent.tenantID = otherDeposit.tenantID) ∧
      ¬ ((collectRequest depositIntent).idempotencyKey =
          (collectRequest otherDeposit).idempotencyKey →
        depositIntent.tenantID = otherDeposit.tenantID ∧
          depositIntent.idempotencyKey = otherDeposit.idempotencyKey ∧
          "fiat_collect" = "fiat_collect") := by
  have differ : ¬ (depositIntent.tenantID = otherDeposit.tenantID) := by decide
  refine ⟨differ, fun apart => differ ?_⟩
  exact (@provider_keys_apart_iff asciiTables _ _ _ _ _ _ deposit_is_collected
    otherDeposit_is_collected).mp apart rfl rfl

/-- Two tenants' collections are sent to the provider under one key. -/
theorem two_tenants_share_key :
    @Commands asciiTables depositIntent "fiat_collect" (collectRequest depositIntent) ∧
      @Commands asciiTables otherDeposit "fiat_collect" (collectRequest otherDeposit) ∧
      depositIntent.tenantID ≠ otherDeposit.tenantID ∧
      (collectRequest depositIntent).idempotencyKey =
        (collectRequest otherDeposit).idempotencyKey := by
  let := asciiTables
  have own := deposit_is_collected.key.1
  have other := otherDeposit_is_collected.key.1
  refine ⟨deposit_is_collected, otherDeposit_is_collected, by decide, ?_⟩
  rw [own, other]
  rfl

end UmojaFlowOS.Settlement
