import UmojaFlowOS.Settlement.HttpProviders
import UmojaFlowOS.Settlement.Proofs.RecoveredLedger
import UmojaFlowOS.Settlement.Proofs.StageOrder

/-!
# What a provider sees of a recovery

The status query that the reconciler sends for a leg of an UNKNOWN saga, next to
the command that the coordinator sent for it: the digest in the body is that of the
raw payload and not the one the saga is bound to.
-/

namespace UmojaFlowOS.Settlement

open Go Interaction PostgresSagaStore

/-! ## What is sent -/

/-- Every request of a provider call carries the key and the body of its intent. -/
def sentFor (intent : Intent) (_ : List (Event http)) (request : HttpRequest) : Prop :=
  request.idempotencyKey = some intent.idempotencyKey ∧ request.body = intentPayload intent

section
variable (cfg : HTTPProviderConfig) (path : String) (intent : Intent)
include cfg path intent

theorem doJSON_meets :
    Meets (onHistory anyAnswer (sentFor intent)) (fun _ _ => True) []
      (doJSON cfg "POST" path (intentPayload intent) intent.idempotencyKey) := by
  refine meets_ask_bind.mpr ⟨⟨rfl, rfl⟩, fun answer _ => ?_⟩
  cases answer with
  | notBuilt | notSent | notRead => trivial
  | replied status envelope =>
    dsimp only
    split
    · trivial
    · cases envelope <;> trivial

theorem HTTPFiatRail.call_meets :
    Meets (onHistory anyAnswer (sentFor intent)) (fun _ _ => True) []
      (HTTPFiatRail.call cfg path intent) := by
  refine (doJSON_meets cfg path intent).bind fun _ out _ => ?_
  cases out with
  | error => trivial
  | ok envelope =>
    dsimp only
    split <;> trivial

theorem HTTPCustodyProvider.call_meets :
    Meets (onHistory anyAnswer (sentFor intent)) (fun _ _ => True) []
      (HTTPCustodyProvider.call cfg path intent) := by
  refine (doJSON_meets cfg path intent).bind fun _ out _ => ?_
  cases out with
  | error => trivial
  | ok envelope =>
    dsimp only
    split <;> trivial

end

theorem ProviderCall.serve_meets (rails : Rails) (call : ProviderCall) :
    Meets (onHistory anyAnswer (sentFor call.intent)) (fun _ _ => True) [] (call.serve rails) := by
  cases call with
  | collect | payout | queryFiat => exact HTTPFiatRail.call_meets _ _ _
  | submitTransfer | queryTransfer => exact HTTPCustodyProvider.call_meets _ _ _

theorem sent_of_run {call : ProviderCall} (ran : Run (call.serve rails) trace rest)
    (sent : exchange ∈ trace) :
    exchange.call.idempotencyKey = some call.intent.idempotencyKey ∧
      exchange.call.body = intentPayload call.intent := by
  obtain ⟨before, after, split⟩ := List.append_of_mem sent
  exact ((ProviderCall.serve_meets rails call).run_history ran).1 before exchange after split

/-! ## The body determines the digest -/

theorem jsonString_payloadDigest (payload : List UInt8) :
    jsonString (payloadDigest payload) = "\"" ++ payloadDigest payload ++ "\"" := by
  have valid := validDigest_payloadDigest payload
  simp only [validDigest, validLowerHex, Bool.and_eq_true, List.all_eq_true] at valid
  exact jsonString_of_isLowerHex valid.2

/-- Two intents that differ in their keys and payloads only have the same body
exactly when their payloads have the same digest. -/
theorem intentPayload_eq_iff (id : first.id = second.id)
    (tenantID : first.tenantID = second.tenantID) (direction : first.direction = second.direction)
    (asset : first.asset = second.asset) (fiat : first.fiat = second.fiat)
    (amountMinor : first.amountMinor = second.amountMinor)
    (destination : first.destination = second.destination) :
    intentPayload first = intentPayload second ↔
      payloadDigest first.payload = payloadDigest second.payload := by
  constructor
  · intro same
    have texts := congrArg String.toList same
    simp only [intentPayload, jsonFields, List.map_cons, List.map_nil, id, tenantID, direction, asset,
      fiat, amountMinor, destination, jsonString_payloadDigest, String.toList_append,
      String.toList_intercalate, List.intercalate_cons_cons, List.intercalate_singleton,
      List.append_assoc, List.append_cancel_left_eq, List.append_cancel_right_eq] at texts
    exact String.toList_injective texts
  · intro same
    simp only [intentPayload, id, tenantID, direction, asset, fiat, amountMinor, destination, same]

/-! ## Commands and queries of one saga -/

section
variable [CaseTables]

theorem command_of_run {c : Coordinator} {intent : Intent} {trace : History} {rest : Saga Outcome}
    (ran : Run (execute c intent) trace rest) {command : ProviderCall}
    {result : command.port.Answer} (sent : (⟨command.port, result⟩ : Call) ∈ trace) :
    (∀ i, command = .collect i → i = stageIntent intent "fiat_collect" ∧
      intent.direction = .onramp) ∧
    (∀ i, command = .payout i → i = stageIntent intent "fiat_payout" ∧ intent.direction ≠ .onramp) ∧
    ∀ i, command = .submitTransfer i → i = stageIntent intent (custodyStage intent) := by
  obtain ⟨before, after, split⟩ := List.append_of_mem sent
  have allowed := guar_of_run ran split
  refine ⟨?_, ?_, ?_⟩
  · rintro i rfl
    exact allowed.2.2
  · rintro i rfl
    exact ⟨allowed.2.2.1, allowed.2.2.2.1⟩
  · rintro i rfl
    exact allowed.2.2.1

theorem query_of_run {w : UnknownSagaReconciler} {record : SettlementRecord} {trace : History}
    (ran : Run (reconcileRecord w record) trace rest) {query : ProviderCall}
    {result : query.port.Answer} (sent : (⟨query.port, result⟩ : Call) ∈ trace) :
    (∀ i, query = .queryFiat i →
      i = stageIntent (recoveryIntent record) (fiatStageOf (recoveryIntent record))) ∧
    ∀ i, query = .queryTransfer i →
      i = stageIntent (recoveryIntent record) (custodyStageOf (recoveryIntent record)) := by
  obtain ⟨before, after, split⟩ := List.append_of_mem sent
  have allowed := reconcilerGuar_of_run ran split
  refine ⟨?_, ?_⟩
  · rintro i rfl
    exact allowed
  · rintro i rfl
    exact allowed

end

theorem direction_of_row {row : SagaRow} (ok : row.ok = true) :
    row.record.direction = .onramp ∨ row.record.direction = .offramp := by
  simp only [SagaRow.ok, SagaRow.passes, Bool.and_eq_true, Bool.or_eq_true, decide_eq_true_eq] at ok
  tauto

/-- A query and the command it asks after are of one stage. -/
theorem stage_of_query [CaseTables] {row : SagaRow} (ok : row.ok = true) {intent : Intent}
    {digest : String} (binds : Binds intent digest row.record)
    {c : Coordinator} {trace pass : History} {rest : Saga Outcome}
    (executed : Run (execute c intent) trace rest) {command query : ProviderCall}
    {result : command.port.Answer} (commanded : (⟨command.port, result⟩ : Call) ∈ trace)
    {w : UnknownSagaReconciler} {left : Saga (Option GoError)}
    (passed : Run (reconcileRecord w row.record) pass left) {status : query.port.Answer}
    (queried : (⟨query.port, status⟩ : Call) ∈ pass) (asks : query.AsksAfter command) :
    ∃ stage, command.intent = stageIntent intent stage ∧
      query.intent = stageIntent (recoveryIntent row.record) stage := by
  obtain ⟨collects, pays, submits⟩ := command_of_run executed commanded
  obtain ⟨fiat, custody⟩ := query_of_run passed queried
  have direction : (recoveryIntent row.record).direction = intent.direction := binds.direction
  have known := direction_of_row ok
  rw [show row.record.direction = intent.direction from binds.direction] at known
  cases query with
  | queryFiat j =>
    have asked := fiat j rfl
    cases command with
    | collect i =>
      obtain ⟨staged, onramp⟩ := collects i rfl
      refine ⟨"fiat_collect", staged, ?_⟩
      simpa [ProviderCall.intent, fiatStageOf, direction, onramp] using asked
    | payout i =>
      obtain ⟨staged, notOnramp⟩ := pays i rfl
      have offramp := known.resolve_left notOnramp
      refine ⟨"fiat_payout", staged, ?_⟩
      simpa [ProviderCall.intent, fiatStageOf, direction, offramp] using asked
    | _ => exact absurd asks id
  | queryTransfer j =>
    have asked := custody j rfl
    cases command with
    | submitTransfer i =>
      refine ⟨custodyStage intent, submits i rfl, ?_⟩
      rcases known with onramp | offramp
      · simpa [ProviderCall.intent, custodyStageOf, custodyStage, direction, onramp] using asked
      · simpa [ProviderCall.intent, custodyStageOf, custodyStage, direction, offramp] using asked
    | _ => exact absurd asks id
  | _ => exact absurd asks (by cases command <;> exact id)

/-- The request of a status query next to that of the command it asks after: the
idempotency keys are always the same, the bodies exactly when the raw payload of the
intent has the digest of the empty payload. -/
theorem query_repeats_command_iff [CaseTables] {config : StoreConfig}
    (reached : postgres.Reaches emptyStore config)
    {row : SagaRow} (present : row ∈ config.shared.db.sagas) {intent : Intent} {digest : String}
    (reserved : Replays
      (callsOf config.shared.accepted row.key) row.record intent digest)
    {c : Coordinator} {trace pass : History} {rest : Saga Outcome}
    (executed : Run (execute c intent) trace rest) {command query : ProviderCall}
    {result : command.port.Answer} (commanded : (⟨command.port, result⟩ : Call) ∈ trace)
    {w : UnknownSagaReconciler} {left : Saga (Option GoError)}
    (passed : Run (reconcileRecord w row.record) pass left) {status : query.port.Answer}
    (queried : (⟨query.port, status⟩ : Call) ∈ pass) (asks : query.AsksAfter command)
    {rails others : Rails} {sending asking : List (Event http)}
    {sendingRest askingRest : Program http (ProviderResult × Option GoError)}
    (sent : Run (command.serve rails) sending sendingRest)
    (asked : Run (query.serve others) asking askingRest) {first second : Event http}
    (firstSent : first ∈ sending) (secondSent : second ∈ asking) :
    first.call.idempotencyKey = second.call.idempotencyKey ∧
      (first.call.body = second.call.body ↔ payloadDigest intent.payload = payloadDigest []) := by
  have ok := (guarded_of_reaches reached).wellFormed.sagaOk row present
  have binds := reserved.binds
  obtain ⟨stage, commandIntent, queryIntent⟩ :=
    stage_of_query ok binds executed commanded passed queried asks
  obtain ⟨firstKey, firstBody⟩ := sent_of_run sent firstSent
  obtain ⟨secondKey, secondBody⟩ := sent_of_run asked secondSent
  refine ⟨?_, ?_⟩
  · rw [firstKey, secondKey, commandIntent, queryIntent]
    simp only [stageIntent, recoveryIntent, binds.idempotencyKey]
  rw [firstBody, secondBody, commandIntent, queryIntent]
  refine intentPayload_eq_iff ?_ ?_ ?_ ?_ ?_ ?_ ?_
  · exact binds.intentID.symm
  · exact binds.tenantID.symm
  · exact binds.direction.symm
  · exact binds.asset.symm
  · exact binds.fiat.symm
  · exact binds.amountMinor.symm
  · exact binds.destination.symm

/-! ## A query for another body -/

def payloadIntent : Intent :=
  { depositIntent with
    payload := [0x7b, 0x7d]
    payloadSHA256 := "44136fa355b3678a1146ad16f7e8649e94fb4fc21fe77e8310c060f61caaff8a" }

def payloadRecord : SettlementRecord :=
  reservedRecord payloadIntent payloadIntent.payloadSHA256 3

def preparedStages : List (ExecutionStage × SagaUpdate) :=
  [(.screened, {}), (.routed, { routeID := "route-1" }), (.liquidityReserved, {}),
    (.ledgerPrepared, { ledgerPendingID := 41 })]

/-- The record after these stages, advanced by threads `i`, `i + 1` and so on. -/
def recordAfter (record : SettlementRecord) (i : Nat) :
    List (ExecutionStage × SagaUpdate) → SettlementRecord
  | [] => record
  | (next, update) :: rest => recordAfter (recordWithUpdate record next update i) (i + 1) rest

open PostgresSagaStore in
/-- A deposit whose collection has no known outcome: it is marked unknown. -/
def unknownCollection : List (Action StoreCall SqlChoice StoreEvent) :=
  .spawn (.reserve payloadIntent payloadIntent.payloadSHA256) ::
    (reserveSteps 0 3 ++ advances payloadRecord 1 preparedStages ++
      .spawn (.markUnknown (recordAfter payloadRecord 1 preparedStages) "fiat collection") ::
        changeSteps 5 5)

def timedOutPorts : (port : Port) → port.Answer
  | .collect _ => ({ state := .unknown, reason := "fiat provider outcome unknown" }, some .unknown)
  | port => confirmingPorts port

def recoveryWorker : UnknownSagaReconciler := { owner := "worker", batchSize := 10, lease := 60 }

/-- The saga of `payloadIntent` stands at unknown, and a pass over it queries the
fiat provider. -/
def QueriedUnknown (row : SagaRow) : Prop :=
  EndedUnknown payloadIntent row ∧
    ∃ status, (⟨.queryFiat (stageIntent (recoveryIntent row.record) "fiat_collect"), status⟩ : Call) ∈
      (@reconcileRecord asciiTables recoveryWorker row.record).trace recoveringPorts

theorem unknownCollection_is_queried : ∃ row, QueriedUnknown row := by
  have played : (postgres.replay emptyStore
      unknownCollection).any (fun config =>
        config.shared.accepted.head?.map Prod.snd =
          some (.reserve payloadIntent payloadIntent.payloadSHA256) ∧
        config.shared.db.sagas.any (fun row =>
          row.key = (payloadIntent.tenantID, payloadIntent.idempotencyKey) ∧
          row.record.stage = .unknown ∧
          ((@reconcileRecord asciiTables recoveryWorker row.record).trace recoveringPorts).any
            (fun event => event.call =
              .queryFiat (stageIntent (recoveryIntent row.record) "fiat_collect")) = true) = true) =
      true := by
    decide +kernel
  obtain ⟨config, replayed, facts⟩ := (Option.any_eq_true _ _).mp played
  obtain ⟨first, some⟩ := of_decide_eq_true facts
  obtain ⟨row, present, facts⟩ := List.any_eq_true.mp some
  obtain ⟨keyed, unknown, queried⟩ := of_decide_eq_true facts
  have reached := Machine.reaches_of_replay replayed
  refine ⟨row, ⟨config, reached, present, unknown, replays_of_first reached present first keyed⟩, ?_⟩
  obtain ⟨⟨port, status⟩, listed, same⟩ := List.any_eq_true.mp queried
  obtain rfl : port = .queryFiat (stageIntent (recoveryIntent row.record) "fiat_collect") :=
    of_decide_eq_true same
  exact ⟨status, listed⟩

theorem collection_is_commanded :
    ∃ result, (⟨.collect (stageIntent payloadIntent "fiat_collect"), result⟩ : Call) ∈
      (@execute asciiTables {} payloadIntent).trace timedOutPorts := by
  have sent : ((@execute asciiTables {} payloadIntent).trace timedOutPorts).any (fun event =>
      event.call = .collect (stageIntent payloadIntent "fiat_collect")) = true := by
    decide +kernel
  obtain ⟨⟨port, result⟩, listed, same⟩ := List.any_eq_true.mp sent
  obtain rfl : port = .collect (stageIntent payloadIntent "fiat_collect") := of_decide_eq_true same
  exact ⟨result, listed⟩

theorem payloadIntent_digest : payloadDigest payloadIntent.payload ≠ payloadDigest [] := by
  decide +kernel

def providerRails : Rails :=
  ⟨{ baseURL := "https://fiat.test/" }, { baseURL := "https://custody.test" }⟩

def confirmingProvider : (request : HttpRequest) → HttpAnswer :=
  fun _ => .replied 200 (.ok { reference := "mpesa-1", state := .settled })

/-- The collection was sent with its raw payload and its outcome is not known. The
status query for it has the same key and another body. -/
theorem query_has_another_body :
    (∃ result, (⟨.collect (stageIntent payloadIntent "fiat_collect"), result⟩ : Call) ∈
      (@execute asciiTables {} payloadIntent).trace timedOutPorts) ∧
    ∃ row, QueriedUnknown row ∧
      ∃ sent asked : HttpRequest,
        ((ProviderCall.collect (stageIntent payloadIntent "fiat_collect")).serve providerRails).trace
          confirmingProvider = [⟨sent, confirmingProvider sent⟩] ∧
        ((ProviderCall.queryFiat (stageIntent (recoveryIntent row.record) "fiat_collect")).serve
          providerRails).trace confirmingProvider = [⟨asked, confirmingProvider asked⟩] ∧
        sent.body ≠ asked.body := by
  refine ⟨collection_is_commanded, ?_⟩
  obtain ⟨row, queried⟩ := unknownCollection_is_queried
  refine ⟨row, queried, _, _, rfl, rfl, ?_⟩
  obtain ⟨⟨config, -, -, -, replays⟩, -⟩ := queried
  have binds := replays.binds
  show intentPayload (stageIntent payloadIntent "fiat_collect") ≠
    intentPayload (stageIntent (recoveryIntent row.record) "fiat_collect")
  rw [Ne, intentPayload_eq_iff binds.intentID.symm binds.tenantID.symm binds.direction.symm
    binds.asset.symm binds.fiat.symm binds.amountMinor.symm binds.destination.symm]
  exact payloadIntent_digest

/-- The query for the collection has the same key and another body. -/
theorem query_of_deposit_repeats_key_only :
    ∃ row, QueriedUnknown row ∧
      ∀ sent ∈ ((ProviderCall.collect (stageIntent payloadIntent "fiat_collect")).serve
          providerRails).trace confirmingProvider,
        ∀ asked ∈ ((ProviderCall.queryFiat (stageIntent (recoveryIntent row.record)
            "fiat_collect")).serve providerRails).trace confirmingProvider,
          sent.call.idempotencyKey = asked.call.idempotencyKey ∧
            sent.call.body ≠ asked.call.body := by
  obtain ⟨row, queried⟩ := unknownCollection_is_queried
  refine ⟨row, queried, ?_⟩
  intro sent isSent asked isAsked
  obtain ⟨⟨config, reached, present, -, replays⟩, status, listed⟩ := queried
  obtain ⟨result, commanded⟩ := collection_is_commanded
  obtain ⟨key, body⟩ := @query_repeats_command_iff asciiTables _ reached _ present _ _ replays _ _ _ _
    (run_trace (P := ports) timedOutPorts _) (.collect _) (.queryFiat _) result commanded _ _
    (run_trace (P := ports) recoveringPorts _) status listed trivial _ _ _ _ _ _
    (run_trace (P := http) confirmingProvider _) (run_trace (P := http) confirmingProvider _) _ _
    isSent isAsked
  exact ⟨key, body.not.mpr payloadIntent_digest⟩

end UmojaFlowOS.Settlement
