import Mathlib.Data.List.Chain
import UmojaFlowOS.Settlement.SagaScan
import UmojaFlowOS.Settlement.Proofs.SagaLog

/-!
# The history of a saga in every reachable state

What a log says about the rows it leaves: the transitions are numbered without a
gap and join up, every version has its event, the row keeps the binding of its
reservation, and replaying the accepted calls gives the row.
-/

namespace UmojaFlowOS.Settlement.PostgresSagaStore

open Interaction

/-- The columns of a saga that its reservation fixes. -/
structure Binds (intent : Intent) (digest : String) (record : SettlementRecord) : Prop where
  tenantID : record.tenantID = intent.tenantID
  sagaID : record.sagaID = sagaID intent.tenantID intent.idempotencyKey digest
  intentID : record.intentID = intent.id
  idempotencyKey : record.idempotencyKey = intent.idempotencyKey
  payloadSHA256 : record.payloadSHA256 = digest
  direction : record.direction = intent.direction
  asset : record.asset = intent.asset
  fiat : record.fiat = intent.fiat
  amountMinor : record.amountMinor = intent.amountMinor
  destination : record.destination = intent.destination

/-- The event of a saga that announces a transition. -/
def Announces (sagaKey : String × String) (transition : TransitionRow) (event : OutboxRow) : Prop :=
  ∃ record, event = outboxRow record ∧ (record.tenantID, record.sagaID) = sagaKey ∧
    record.version = transition.version ∧ record.stage = transition.target

/-- What an accepted change means: every value its update supplies replaces the
stored one. -/
def applied (record : SettlementRecord) : StoreCall → SettlementRecord
  | .resolveUnknownSaga _ _ authorization update =>
    recordWithUpdate record (resolutionStage authorization.decision)
      (resolutionUpdate authorization update) 0
  | call =>
    match change call with
    | some (_, next, update) => recordWithUpdate record next update 0
    | none => record

/-- A record without its times and its route. -/
def untimed (record : SettlementRecord) : SettlementRecord :=
  { record with routeID := "", createdAt := 0, updatedAt := 0, terminalAt := none }

/-- A resolution that supplies no route: `ResolveUnknownSaga` does not write it. -/
def namesNoRoute : StoreCall → Prop
  | .resolveUnknownSaga _ _ _ update => update.routeID = ""
  | _ => True

/-- The saga is its reservation with the later accepted changes applied in order. -/
structure Replays (calls : List (Nat × StoreCall)) (record : SettlementRecord) (intent : Intent)
    (digest : String) : Prop where
  reserved : calls.head?.map Prod.snd = some (.reserve intent digest)
  binds : Binds intent digest record
  count : calls.length = record.version
  values : untimed record =
    untimed ((calls.tail.map Prod.snd).foldl applied (reservedRecord intent digest 0))
  route : (∀ call ∈ calls, namesNoRoute call.2) → record.routeID =
    ((calls.tail.map Prod.snd).foldl applied (reservedRecord intent digest 0)).routeID

variable {call : StoreCall}

theorem applied_of_asks {route : String} (asked : Asks record call next update route)
    (before : SettlementRecord) : applied before call = recordWithUpdate before next update 0 := by
  cases asked with
  | resolve => rfl
  | advance _ current _ _ changes =>
    cases call with
    | resolveUnknownSaga => cases changes
    | _ => simp only [applied, changes]

theorem untimed_recordWithUpdate (same : untimed first = untimed second) (next : ExecutionStage)
    (update : SagaUpdate) (now later : Time) :
    untimed (recordWithUpdate first next update now) =
      untimed (recordWithUpdate second next update later) := by
  simp only [untimed, SettlementRecord.mk.injEq, and_true, true_and] at same
  obtain ⟨h1, h2, h3, h4, h5, h6, h7, h8, h9, h10, -, h11, h12, h13, h14, h15, h16, h17, h18, h19⟩ :=
    same
  simp only [untimed, recordWithUpdate, h1, h2, h3, h4, h5, h6, h7, h8, h9, h10, h11, h12, h13, h14,
    h15, h16, h17, h18, h19]

section
variable {calls : List (Nat × StoreCall)} {record : SettlementRecord}

section
variable (log : Log transitions events calls record)
include log

/-- The versions of a saga have no gap. -/
theorem Log.versions :
    transitions.map TransitionRow.version = List.range' 1 record.version := by
  induction log with
  | reserved => rfl
  | @changed transitions _ _ record _ _ next update _ now _ _ _ ih =>
    calc (transitions ++ [_]).map TransitionRow.version
        = List.range' 1 record.version ++ [record.version + 1] := by
          rw [List.map_append, ih]
          rfl
      _ = List.range' 1 (record.version + 1) := by rw [List.range'_1_concat, Nat.add_comm]
  | claimed _ _ ih => exact ih

theorem Log.last :
    transitions.getLast?.map TransitionRow.target = some record.stage := by
  induction log with
  | reserved => rfl
  | changed => simp [transitionRow, recordWithUpdate]
  | claimed _ _ ih => exact ih

theorem Log.first :
    transitions.head?.map TransitionRow.source = some .unset := by
  induction log with
  | reserved => rfl
  | changed _ _ _ _ _ ih =>
    obtain ⟨first, isFirst, source⟩ := Option.map_eq_some_iff.mp ih
    rw [List.head?_append, isFirst]
    exact congrArg some source
  | claimed _ _ ih => exact ih

theorem Log.chain :
    transitions.IsChain fun earlier later => later.source = earlier.target := by
  induction log with
  | reserved => exact .singleton _
  | changed _ _ _ log _ ih =>
    refine List.isChain_append.mpr ⟨ih, .singleton _, ?_⟩
    intro earlier isLast later isNext
    have stage := log.last
    rw [isLast] at stage
    cases isNext
    exact (Option.some.inj stage).symm
  | claimed _ _ ih => exact ih

theorem Log.announced :
    List.Forall₂ (Announces (record.tenantID, record.sagaID)) transitions events := by
  induction log with
  | reserved _ intent digest now =>
    exact .cons ⟨reservedRecord intent digest now, rfl, rfl, rfl, rfl⟩ .nil
  | changed _ now _ _ _ ih =>
    exact List.rel_append ih (.cons ⟨_, rfl, rfl, rfl, rfl⟩ .nil)
  | claimed _ _ ih => exact ih

end

/-- Replaying one more accepted change gives the row it leaves. -/
theorem Replays.change (replays : Replays calls record intent digest) {route : String}
    (asked : Asks record call next update route) (caller : Nat) (now updatedAt : Time) :
    Replays (calls ++ [(caller, call)])
      { recordWithUpdate record next update now with routeID := route, updatedAt := updatedAt }
      intent digest := by
  obtain ⟨reserved, binds, count, values, stored⟩ := replays
  obtain ⟨⟨first, _⟩, isFirst, rfl⟩ := Option.map_eq_some_iff.mp reserved
  obtain ⟨rest, rfl⟩ : ∃ rest, calls = (first, .reserve intent digest) :: rest :=
    List.head?_eq_some_iff.mp isFirst
  have replayed : ((rest ++ [(caller, call)]).map Prod.snd).foldl applied
      (reservedRecord intent digest 0) = recordWithUpdate
        ((rest.map Prod.snd).foldl applied (reservedRecord intent digest 0)) next update 0 := by
    rw [List.map_append, List.foldl_append]
    exact applied_of_asks asked _
  refine ⟨rfl, ?_, ?_, ?_, ?_⟩
  · exact ⟨binds.tenantID, binds.sagaID, binds.intentID, binds.idempotencyKey, binds.payloadSHA256,
      binds.direction, binds.asset, binds.fiat, binds.amountMinor, binds.destination⟩
  · rw [List.length_append, count]
    rfl
  · simp only [List.cons_append, List.tail_cons, replayed]
    exact untimed_recordWithUpdate values next update now 0
  intro unrouted
  simp only [List.cons_append, List.tail_cons, replayed, recordWithUpdate]
  have before := stored fun call listed => unrouted call (List.mem_append_left _ listed)
  simp only [List.tail_cons] at before
  rw [← before]
  cases asked with
  | advance => rfl
  | resolve current owner authorization update =>
    have none : update.routeID = "" :=
      unrouted _ List.mem_concat_self
    simp only [resolutionUpdate, none, supplied_empty]

theorem Log.replays (log : Log transitions events calls record) :
    ∃ intent digest, Replays calls record intent digest := by
  induction log with
  | reserved _ intent digest now =>
    exact ⟨intent, digest, rfl, ⟨rfl, rfl, rfl, rfl, rfl, rfl, rfl, rfl, rfl, rfl⟩, rfl, rfl, fun _ => rfl⟩
  | changed caller now updatedAt _ asked ih =>
    obtain ⟨intent, digest, replays⟩ := ih
    exact ⟨intent, digest, replays.change asked caller now updatedAt⟩
  | claimed _ _ ih =>
    obtain ⟨intent, digest, reserved, binds, count, values, route⟩ := ih
    exact ⟨intent, digest, reserved, ⟨binds.tenantID, binds.sagaID, binds.intentID,
      binds.idempotencyKey, binds.payloadSHA256, binds.direction, binds.asset, binds.fiat,
      binds.amountMinor, binds.destination⟩, count, values, route⟩

end

/-! ## Calls that reported success -/

def basis : StoreCall → Nat
  | .advance current _ _ => current.version
  | .markHeld record _ => record.version
  | .markUnknown record _ => record.version
  | .resolveUnknownSaga current _ _ _ => current.version
  | _ => 0

/-- The answer tells the caller that its change was made. Marking a record that
already is at the stage asked for changes nothing. -/
def Accepted : (call : StoreCall) → call.Answer → Prop
  | .reserve _ _, (_, owned, err) => owned = true ∧ err = none
  | .advance _ _ _, (_, err) => err = none
  | .markHeld record _, err => err = none ∧ record.stage ≠ .held
  | .markUnknown record _, err => err = none ∧ record.stage ≠ .unknown
  | .resolveUnknownSaga _ _ _ _, (_, err) => err = none
  | .claimUnknownSagas _ _ _ _, _ => False
  | .findResolutionAuthorization _ _ _, _ => False

theorem committed_of_accepted (answered : Answered call seen answer)
    (accepted : Accepted call answer) : seen.committed ≠ [] := by
  have changed : ∀ {current next update} {answer : SettlementRecord × Option GoError},
      Changed current next update seen answer → answer.2 = none → seen.committed ≠ [] := by
    intro current next update answer changed succeeded
    obtain ⟨locked, now, -, -, -, -, committed⟩ := changed.2 succeeded
    rw [committed]
    exact List.cons_ne_nil _ _
  cases call with
  | reserve intent digest =>
    obtain ⟨now, -, committed⟩ := answered.2.1 accepted.2 accepted.1
    rw [committed]
    exact List.cons_ne_nil _ _
  | advance current next update => exact changed answered accepted
  | markHeld record reason =>
    rcases answered with ⟨held, -⟩ | ⟨_, moved⟩
    · exact absurd held accepted.2
    · exact changed moved accepted.1
  | markUnknown record reason =>
    rcases answered with ⟨unknown, -⟩ | ⟨_, moved⟩
    · exact absurd unknown accepted.2
    · exact changed moved accepted.1
  | claimUnknownSagas | findResolutionAuthorization => exact absurd accepted id
  | resolveUnknownSaga current owner authorization update =>
    obtain ⟨locked, now, consumed, -, committed⟩ := answered.2 accepted
    rw [committed]
    exact List.cons_ne_nil _ _

theorem length_callsOf_of_effect (recorded : Recorded s) (after : WellFormed db)
    (effect : Effect s.db readings call db) (targets : target call = some key) :
    (callsOf s.accepted key).length = basis call := by
  have count : ∀ row ∈ s.db.sagas, (callsOf s.accepted row.key).length = row.record.version := by
    intro row present
    obtain ⟨intent, digest, replays⟩ := (recorded.log row present).replays
    exact replays.count
  cases effect with
  | reserved intent digest now stamp =>
    cases targets
    have none : callsOf s.accepted (intent.tenantID, intent.idempotencyKey) = [] :=
      recorded.callsOf_eq_nil fun row present => (fresh_of_reserved after present).2
    rw [none]
    rfl
  | advanced _ current next update row now stamp asked allowed present matched =>
    obtain rfl : row.key = key := by
      rw [target_of_change asked] at targets
      exact (Prod.ext matched.tenantID matched.idempotencyKey).trans (Option.some.inj targets)
    rw [count row present, matched.version]
    cases call with
    | advance | markHeld | markUnknown =>
      simp only [change, Option.some.injEq, Prod.mk.injEq] at asked
      rw [← asked.1]
      rfl
    | _ => cases asked
  | claimed => cases targets
  | resolved current owner authorization update row approval used leasedUntil leasedAt checked now
      consumed stamp present keyed sagaID version =>
    obtain rfl : row.key = key := keyed.trans (Option.some.inj targets)
    rw [count row present, version]
    rfl

theorem callsOf_grows (stepped : Stepped threads s after) (key : String × String) :
    callsOf s.accepted key <+: callsOf after.accepted key := by
  cases stepped with
  | quiet _ kept | issued _ _ _ _ kept => exact kept ▸ List.prefix_rfl
  | committed _ _ _ _ kept => exact kept ▸ (List.prefix_append _ _).filter _

/-- Every thread whose commit was acknowledged has its call in the log of its
saga, at the version it started from. -/
def Acknowledged (config : StoreConfig) : Prop :=
  ∀ i thread key, config.threads[i]? = some thread →
    (thread.past.foldl Seen.observe {}).committed ≠ [] → target thread.label = some key →
    (callsOf config.shared.accepted key)[basis thread.label]? = some (i, thread.label)

theorem commit_of_committed {seen : Seen}
    (before : seen.committed = []) (after : (seen.observe ⟨request, answer⟩).committed ≠ []) :
    (⟨request, answer⟩ : Event sql) = ⟨.run .commit, .ok ()⟩ ∧ seen.view.writes ≠ [] := by
  simp only [Seen.observe] at after
  split at after
  · rename_i same
    rw [before, List.nil_append] at after
    exact ⟨same, after⟩
  · exact absurd before after

variable {config : StoreConfig}

section
variable (reached : postgres.Reaches emptyStore config)
include reached

/-- Acknowledged commits stay in the log. -/
theorem acknowledged_step (taken : postgres.next config action = some later)
    (acknowledged : Acknowledged config) : Acknowledged later := by
  have stepped := stepped_of_reaches reached taken
  -- An entry of the log stays where it is.
  have kept : ∀ {key : String × String} {n : Nat} {entry : Nat × StoreCall},
      (callsOf config.shared.accepted key)[n]? = some entry →
        (callsOf later.shared.accepted key)[n]? = some entry := by
    intro key n entry found
    obtain ⟨bound, -⟩ := List.getElem?_eq_some_iff.mp found
    rw [List.prefix_iff_getElem?.mp (callsOf_grows stepped key) n bound,
      ← List.getElem?_eq_getElem bound, found]
  rcases Machine.next_cases taken with ⟨label, program, -, rfl⟩ |
    ⟨i, label, past, request, next, choice, answer, shared, present, done, rfl⟩ |
    ⟨event, shared, -, rfl⟩
  · intro j thread key there committed targets
    rcases Nat.lt_or_ge j config.threads.length with old | new
    · rw [List.getElem?_append_left old] at there
      exact acknowledged j thread key there committed targets
    rw [List.getElem?_append_right new] at there
    obtain rfl := List.mem_singleton.mp (List.mem_of_getElem? there)
    exact absurd rfl committed
  · intro j thread key there committed targets
    by_cases same : i = j
    · subst same
      obtain ⟨bound, -⟩ := List.getElem?_eq_some_iff.mp present
      rw [List.getElem?_set_self bound] at there
      cases there
      rw [List.foldl_append] at committed
      by_cases before : (past.foldl Seen.observe {}).committed = []
      · obtain ⟨commits, writes⟩ := commit_of_committed before committed
        cases commits
        obtain ⟨mine, found, appended⟩ : ∃ mine, config.shared.session i = some mine ∧
            shared.accepted = if mine.view.writes = [] then config.shared.accepted
              else config.shared.accepted ++ [(i, label)] := by
          cases executed_of_exec done with
          | committed mine _ found => exact ⟨mine, found, rfl⟩
          | queried _ choice _ _ _ _ _ _ queried => cases choice <;> cases queried
        obtain ⟨other, there, view⟩ :=
          (guarded_of_reaches reached).seen i mine found
        obtain rfl := Option.some.inj (present.symm.trans there)
        rw [if_neg (by rw [view]; exact writes)] at appended
        cases stepped with
        | quiet _ same | issued _ _ _ _ same => exact absurd (same.symm.trans appended) (by simp)
        | committed caller call effect after same =>
          obtain ⟨rfl, rfl⟩ : caller = i ∧ call = label := by
            simpa using same.symm.trans appended
          have place := length_callsOf_of_effect (recorded_of_reaches reached) after effect targets
          rw [appended, callsOf_append_self targets, ← place, List.getElem?_concat_length]
      · exact kept (acknowledged i ⟨label, past, .call request next⟩ key present before targets)
    · rw [List.getElem?_set_ne same] at there
      exact kept (acknowledged j thread key there committed targets)
  · exact fun j thread key there committed targets =>
      kept (acknowledged j thread key there committed targets)

theorem acknowledged_of_reaches : Acknowledged config := by
  induction reached with
  | refl => exact fun _ _ _ there => absurd there nofun
  | tail action reached taken ih => exact acknowledged_step reached taken ih

theorem answered_of_finished
    (present : (⟨call, past, .ret ⟨call, answer⟩⟩ : Thread sql StoreCall (Event store)) ∈
      config.threads) : Answered call (past.foldl Seen.observe {}) answer := by
  obtain ⟨shared, program, spawned, ran⟩ := reached.run_of_thread rfl present
  obtain rfl : session call = program := Option.some.inj spawned
  have meets : Meets (storeContract call)
      (fun seen event => ∀ answer, event = ⟨call, answer⟩ → Answered call seen answer) {}
      (session call) := by
    refine (serve_meets call).bind fun seen answer answered => ?_
    intro other same
    cases same
    exact answered
  have relied := (guarded_of_reaches reached).relied _ present
  exact (meets.run ran (relied_iff.mpr relied)).2 answer rfl

end

/-! ## The history of a saga -/

structure CompleteHistory (s : StoreState) (row : SagaRow) : Prop where
  versions : (transitionsOf s.db row.sagaKey).map TransitionRow.version =
    List.range' 1 row.record.version
  first : (transitionsOf s.db row.sagaKey).head?.map TransitionRow.source = some .unset
  chain : (transitionsOf s.db row.sagaKey).IsChain fun earlier later =>
    later.source = earlier.target
  last : (transitionsOf s.db row.sagaKey).getLast?.map TransitionRow.target = some row.record.stage
  events : List.Forall₂ (Announces row.sagaKey) (transitionsOf s.db row.sagaKey)
    (outboxOf s.db row.sagaKey)
  terminal : row.record.terminalAt.isSome = true ↔
    row.record.stage = .settled ∨ row.record.stage = .held ∨ row.record.stage = .unknown
  replays : ∃ intent digest, Replays (callsOf s.accepted row.key) row.record intent digest

theorem terminal_iff_of_ok {row : SagaRow} (ok : row.ok = true) :
    row.record.terminalAt.isSome = true ↔
      row.record.stage = .settled ∨ row.record.stage = .held ∨ row.record.stage = .unknown := by
  simp only [SagaRow.ok, SagaRow.passes, Bool.and_eq_true, decide_eq_true_eq] at ok
  rw [← ok.1.2]
  simp [terminalStage, or_assoc]

/-- In every reachable state of any number of concurrent store calls, every saga
has a complete history, and every call that reported success to its caller stands
in it at the version the caller started from. -/
theorem saga_history_is_complete {config : StoreConfig}
    (reached : postgres.Reaches emptyStore config) :
    (∀ row ∈ config.shared.db.sagas, CompleteHistory config.shared row) ∧
      ∀ (i : Nat) (call : StoreCall) (past : List (Event sql)) (answer : call.Answer)
        (key : String × String),
        config.threads[i]? = some ⟨call, past, .ret ⟨call, answer⟩⟩ → Accepted call answer →
        target call = some key →
        (callsOf config.shared.accepted key)[basis call]? = some (i, call) := by
  refine ⟨?_, ?_⟩
  · intro row present
    have log := (recorded_of_reaches reached).log row present
    have ok := (guarded_of_reaches reached).wellFormed.sagaOk row present
    exact ⟨log.versions, log.first, log.chain, log.last, log.announced, terminal_iff_of_ok ok,
      log.replays⟩
  intro i call past answer key present accepted targets
  have answered := answered_of_finished reached (List.mem_of_getElem? present)
  exact acknowledged_of_reaches reached i _ key present (committed_of_accepted answered accepted)
    targets

def unknownSchedule (intent : Intent) : List (Action StoreCall SqlChoice StoreEvent) :=
  let digest := intent.payloadSHA256
  [.spawn (.reserve intent digest), .exec 0 (.reads 1), .exec 0 (.begins fun _ => 1),
    .exec 0 (.reads 1), .exec 0 .ok, .exec 0 .ok, .exec 0 .ok, .exec 0 .ok, .exec 0 .ok,
    .spawn (.markUnknown (reservedRecord intent digest 1) "screening unavailable"),
    .exec 1 (.begins fun _ => 2), .exec 1 .ok, .exec 1 (.reads 2), .exec 1 .ok, .exec 1 .ok,
    .exec 1 .ok, .exec 1 .ok, .exec 1 .ok]

/-- The one saga the schedule leaves, reserved for `intent` and marked unknown. -/
def leavesUnknown (intent : Intent) (config : StoreConfig) : Bool :=
  config.shared.accepted.head?.map Prod.snd = some (.reserve intent intent.payloadSHA256) &&
    (config.shared.db.sagas.map fun row => (row.key, row.record.version, row.record.stage)) =
      [((intent.tenantID, intent.idempotencyKey), 2, .unknown)]

theorem unknownSchedule_reaches :
    ∃ config, postgres.Reaches emptyStore config ∧ leavesUnknown corridorIntent config = true := by
  refine Machine.exists_of_replay (unknownSchedule corridorIntent) ?_
  decide +kernel

/-- The saga of a deposit that was marked unknown has a complete history. -/
theorem unknownDeposit_history_is_complete :
    ∃ config, postgres.Reaches emptyStore config ∧ leavesUnknown corridorIntent config = true ∧
      ∀ row ∈ config.shared.db.sagas, CompleteHistory config.shared row := by
  obtain ⟨config, reached, left⟩ := unknownSchedule_reaches
  exact ⟨config, reached, left, (saga_history_is_complete reached).1⟩

end UmojaFlowOS.Settlement.PostgresSagaStore
