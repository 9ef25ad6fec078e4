import UmojaFlowOS.Settlement.Proofs.StoreEffects

/-!
# The log of a saga

The abstract view of the three tables: a saga is the list of the store calls that
were accepted for it, and its row, its transition rows and its outbox events are
what those calls leave. Every commit extends the log of one saga by one call.
-/

namespace UmojaFlowOS.Settlement.PostgresSagaStore

open Interaction Relational

def transitionsOf (db : Database) (sagaKey : String × String) : List TransitionRow :=
  db.transitions.filter fun row => (row.tenantID, row.sagaID) = sagaKey

def outboxOf (db : Database) (sagaKey : String × String) : List OutboxRow :=
  db.outbox.filter fun row => (row.tenantID, row.sagaID) = sagaKey

/-- The saga, by tenant and idempotency key, whose stage a call changes. -/
def target : StoreCall → Option (String × String)
  | .reserve intent _ => some (intent.tenantID, intent.idempotencyKey)
  | .advance current _ _ => some (current.tenantID, current.idempotencyKey)
  | .markHeld record _ => some (record.tenantID, record.idempotencyKey)
  | .markUnknown record _ => some (record.tenantID, record.idempotencyKey)
  | .claimUnknownSagas _ _ _ _ => none
  | .findResolutionAuthorization _ _ _ => none
  | .resolveUnknownSaga current _ _ _ => some (current.tenantID, current.idempotencyKey)

/-- The accepted changes of a saga with their callers, in the order of their commits. -/
def callsOf (accepted : List (Nat × StoreCall)) (key : String × String) : List (Nat × StoreCall) :=
  accepted.filter fun (_, call) => target call = some key

/-- `Asks record call next update route`: on a saga that stands at `record`, the
call is a change to `next` with this update, and stores `route` as its route. -/
inductive Asks (record : SettlementRecord) :
    StoreCall → ExecutionStage → SagaUpdate → String → Prop
  | advance (call : StoreCall) (current : SettlementRecord) (next : ExecutionStage)
      (update : SagaUpdate) :
      change call = some (current, next, update) → stageAllowsRecord current next = true →
      Matches current record → Asks record call next update (supplied update.routeID record.routeID)
  | resolve (current : SettlementRecord) (owner : String) (authorization : ResolutionAuthorization)
      (update : SagaUpdate) :
      record.stage = .unknown → record.version = current.version →
      Asks record (.resolveUnknownSaga current owner authorization update)
        (resolutionStage authorization.decision) (resolutionUpdate authorization update)
        record.routeID

/-- `Log transitions events calls record`: the accepted `calls` have left these
transitions and events, and this record. -/
inductive Log : List TransitionRow → List OutboxRow → List (Nat × StoreCall) → SettlementRecord →
    Prop
  | reserved (caller : Nat) (intent : Intent) (digest : String) (now : Time) :
      Log [transitionRow (reservedRecord intent digest now) .unset .received "intent reserved"]
        [outboxRow (reservedRecord intent digest now)] [(caller, .reserve intent digest)]
        (reservedRecord intent digest now)
  | changed {transitions : List TransitionRow} {events : List OutboxRow}
      {calls : List (Nat × StoreCall)} {record : SettlementRecord} (caller : Nat)
      {call : StoreCall} {next : ExecutionStage} {update : SagaUpdate} {route : String}
      (now updatedAt : Time) :
      Log transitions events calls record → Asks record call next update route →
      Log
        (transitions ++
          [transitionRow (recordWithUpdate record next update now) record.stage next update.reason])
        (events ++ [outboxRow (recordWithUpdate record next update now)]) (calls ++ [(caller, call)])
        { recordWithUpdate record next update now with routeID := route, updatedAt := updatedAt }
  | claimed {transitions : List TransitionRow} {events : List OutboxRow}
      {calls : List (Nat × StoreCall)} {record : SettlementRecord} (updatedAt : Time) :
      Log transitions events calls record →
      Log transitions events calls { record with updatedAt := updatedAt }

/-- Every saga row is what its log leaves, and every accepted change belongs to a saga. -/
structure Recorded (s : StoreState) : Prop where
  log : ∀ row ∈ s.db.sagas, Log (transitionsOf s.db row.sagaKey) (outboxOf s.db row.sagaKey)
    (callsOf s.accepted row.key) row.record
  known : ∀ accepted ∈ s.accepted, ∀ key, target accepted.2 = some key → key ∈ s.db.sagas.map SagaRow.key

/-! ## Appending to the tables -/

section
variable {db : Database} {sagaKey : String × String}

theorem transitionsOf_append_self (same : (transition.tenantID, transition.sagaID) = sagaKey) :
    transitionsOf ⟨sagas, db.transitions ++ [transition], db.outbox ++ [event], authorizations⟩
      sagaKey = transitionsOf db sagaKey ++ [transition] := by
  simp [transitionsOf, List.filter_append, same]

theorem transitionsOf_append_other (other : (transition.tenantID, transition.sagaID) ≠ sagaKey) :
    transitionsOf ⟨sagas, db.transitions ++ [transition], db.outbox ++ [event], authorizations⟩
      sagaKey = transitionsOf db sagaKey := by
  simp [transitionsOf, List.filter_append, other]

theorem outboxOf_append_self (same : (event.tenantID, event.sagaID) = sagaKey) :
    outboxOf ⟨sagas, db.transitions ++ [transition], db.outbox ++ [event], authorizations⟩ sagaKey =
      outboxOf db sagaKey ++ [event] := by
  simp [outboxOf, List.filter_append, same]

theorem outboxOf_append_other (other : (event.tenantID, event.sagaID) ≠ sagaKey) :
    outboxOf ⟨sagas, db.transitions ++ [transition], db.outbox ++ [event], authorizations⟩ sagaKey =
      outboxOf db sagaKey := by
  simp [outboxOf, List.filter_append, other]

theorem callsOf_append_self {call : StoreCall} (same : target call = some key) :
    callsOf (accepted ++ [(caller, call)]) key = callsOf accepted key ++ [(caller, call)] := by
  simp [callsOf, List.filter_append, same]

theorem callsOf_append_other {call : StoreCall} (other : target call ≠ some key) :
    callsOf (accepted ++ [(caller, call)]) key = callsOf accepted key := by
  simp [callsOf, List.filter_append, other]

end

variable {call : StoreCall}

theorem target_of_change (asked : change call = some (current, next, update)) :
    target call = some (current.tenantID, current.idempotencyKey) := by
  cases call with
  | advance | markHeld | markUnknown =>
    simp only [change, Option.some.injEq, Prod.mk.injEq] at asked
    rw [← asked.1]
    rfl
  | _ => cases asked

/-! ## Every commit extends one log -/

section
variable (db : Database) (stamp : String → Time)
include db stamp

theorem applyAll_reserveWrites (record : SettlementRecord) :
    db.applyAll stamp (reserveWrites record) = ⟨db.sagas ++ [{ record := record }],
      db.transitions ++ [transitionRow record .unset .received "intent reserved"],
      db.outbox ++ [outboxRow record], db.authorizations⟩ := rfl

theorem applyAll_advanceWrites (current nextRecord : SettlementRecord) (reason : String) :
    db.applyAll stamp (advanceWrites current nextRecord reason) =
      ⟨updateWhere
          (SagaRow.atVersion current.tenantID current.sagaID current.version current.stage)
          (SagaRow.advanced nextRecord stamp) db.sagas,
        db.transitions ++ [transitionRow nextRecord current.stage nextRecord.stage reason],
        db.outbox ++ [outboxRow nextRecord], db.authorizations⟩ := rfl

theorem applyAll_resolveWrites
    (locked nextRecord : SettlementRecord) (owner reason authorizationID : String) (now : Time) :
    db.applyAll stamp (resolveWrites locked nextRecord owner reason authorizationID now) =
      ⟨updateWhere (SagaRow.leasedUnknown locked.tenantID locked.sagaID locked.version owner)
          (SagaRow.resolved nextRecord stamp) db.sagas,
        db.transitions ++ [transitionRow nextRecord .unknown nextRecord.stage reason],
        db.outbox ++ [outboxRow nextRecord],
        updateWhere
          (fun row => row.key = (locked.tenantID, locked.sagaID, authorizationID) &&
            row.consumed.isNone)
          (fun row => { row with consumed := some (now, owner) }) db.authorizations⟩ := rfl

end

section
variable {s : StoreState} {caller : Nat}

theorem Recorded.change (recorded : Recorded s) (wellFormed : WellFormed s.db)
    (present : row ∈ s.db.sagas) (matched : condition row = true)
    (only : ∀ other, condition other = true → other.sagaKey = row.sagaKey)
    (sagaKey : ∀ row, (update row).sagaKey = row.sagaKey) (key : ∀ row, (update row).key = row.key)
    (transitionKey : (transition.tenantID, transition.sagaID) = row.sagaKey)
    (eventKey : (event.tenantID, event.sagaID) = row.sagaKey) (targets : target call = some row.key)
    (log : Log (transitionsOf s.db row.sagaKey ++ [transition]) (outboxOf s.db row.sagaKey ++ [event])
      (callsOf s.accepted row.key ++ [(caller, call)]) (update row).record) :
    Recorded ⟨⟨updateWhere condition update s.db.sagas, s.db.transitions ++ [transition],
      s.db.outbox ++ [event], authorizations⟩, sessions, s.accepted ++ [(caller, call)]⟩ := by
  refine ⟨?_, ?_⟩
  · intro after there
    rcases (mem_updateWhere_of_unique wellFormed.sagaKey present matched only).mp there with
      rfl | ⟨kept, different⟩
    · rw [sagaKey, key, transitionsOf_append_self transitionKey, outboxOf_append_self eventKey,
        callsOf_append_self targets]
      exact log
    have other : after.key ≠ row.key := fun same =>
      different (congrArg SagaRow.sagaKey (row_of_key wellFormed kept present same))
    rw [transitionsOf_append_other (transitionKey.trans_ne different.symm),
      outboxOf_append_other (eventKey.trans_ne different.symm),
      callsOf_append_other (by rw [targets]; exact fun same => other (Option.some.inj same).symm)]
    exact recorded.log after kept
  intro accepted listed k targeted
  rw [map_updateWhere key]
  rcases List.mem_append.mp listed with old | new
  · exact recorded.known accepted old k targeted
  rw [List.mem_singleton.mp new, targets] at targeted
  cases targeted
  exact List.mem_map_of_mem present

theorem fresh_of_reserved {db : Database}
    (after : WellFormed (db.applyAll stamp (reserveWrites record))) (present : row ∈ db.sagas) :
    row.sagaKey ≠ (record.tenantID, record.sagaID) ∧
      row.key ≠ (record.tenantID, record.idempotencyKey) := by
  have sagaKeys := after.sagaKey
  have keys := after.key
  simp only [applyAll_reserveWrites, List.map_append, List.map_cons, List.map_nil,
    List.nodup_append, List.mem_singleton] at sagaKeys keys
  exact ⟨sagaKeys.2.2 _ (List.mem_map_of_mem present) _ rfl,
    keys.2.2 _ (List.mem_map_of_mem present) _ rfl⟩

section
variable (recorded : Recorded s)
include recorded

theorem Recorded.callsOf_eq_nil
    (fresh : ∀ row ∈ s.db.sagas, row.key ≠ key) : callsOf s.accepted key = [] := by
  refine List.filter_eq_nil_iff.mpr fun accepted listed targeted => ?_
  obtain ⟨row, old, same⟩ :=
    List.mem_map.mp (recorded.known accepted listed key (by simpa using targeted))
  exact fresh row old same

theorem Recorded.reserve (wellFormed : WellFormed s.db)
    (after : WellFormed (s.db.applyAll stamp (reserveWrites (reservedRecord intent digest now)))) :
    Recorded ⟨s.db.applyAll stamp (reserveWrites (reservedRecord intent digest now)), sessions,
      s.accepted ++ [(caller, .reserve intent digest)]⟩ := by
  let new : SagaRow := { record := reservedRecord intent digest now }
  have freshSaga : ∀ row ∈ s.db.sagas, row.sagaKey ≠ new.sagaKey :=
    fun row present => (fresh_of_reserved after present).1
  have freshKey : ∀ row ∈ s.db.sagas, row.key ≠ new.key :=
    fun row present => (fresh_of_reserved after present).2
  -- The new saga has no rows yet: they would name a saga that is not there.
  have noTransitions : transitionsOf s.db new.sagaKey = [] := by
    refine List.filter_eq_nil_iff.mpr fun transition present => ?_
    obtain ⟨row, old, same⟩ := List.mem_map.mp (wellFormed.transitionSaga transition present)
    simpa [← same] using freshSaga row old
  have noEvents : outboxOf s.db new.sagaKey = [] := by
    refine List.filter_eq_nil_iff.mpr fun event present => ?_
    obtain ⟨row, old, same⟩ := List.mem_map.mp (wellFormed.eventSaga event present)
    simpa [← same] using freshSaga row old
  have sameSaga : (new.record.tenantID, new.record.sagaID) = new.sagaKey := rfl
  have targets : target (.reserve intent digest) = some new.key := rfl
  rw [applyAll_reserveWrites]
  refine ⟨?_, ?_⟩
  · intro row there
    rcases List.mem_append.mp there with old | added
    · have other := freshSaga row old
      rw [transitionsOf_append_other other.symm, outboxOf_append_other other.symm,
        callsOf_append_other (by
          rw [targets]
          exact fun same => freshKey row old (Option.some.inj same).symm)]
      exact recorded.log row old
    obtain rfl : row = new := List.mem_singleton.mp added
    rw [transitionsOf_append_self sameSaga, outboxOf_append_self sameSaga,
      callsOf_append_self targets, noTransitions, noEvents, recorded.callsOf_eq_nil freshKey]
    exact .reserved caller intent digest now
  intro call listed key targeted
  rw [List.map_append]
  rcases mem_concat.mp listed with old | rfl
  · exact List.mem_append_left _ (recorded.known call old key targeted)
  · cases targeted
    exact List.mem_concat_self

theorem Recorded.claim (targets : target call = none) :
    Recorded ⟨{ s.db with
      sagas := updateWhere condition (SagaRow.claimed owner leasedUntil stamp) s.db.sagas },
      sessions, s.accepted ++ [(caller, call)]⟩ := by
  refine ⟨?_, ?_⟩
  · intro row there
    rw [callsOf_append_other (by rw [targets]; nofun)]
    rcases mem_updateWhere.mp there with ⟨old, present, -, rfl⟩ | ⟨present, -⟩
    · exact .claimed _ (recorded.log old present)
    · exact recorded.log row present
  intro accepted listed key targeted
  have keys : (updateWhere condition (SagaRow.claimed owner leasedUntil stamp) s.db.sagas).map
      SagaRow.key = s.db.sagas.map SagaRow.key := map_updateWhere fun _ => rfl
  rw [keys]
  rcases List.mem_append.mp listed with old | new
  · exact recorded.known accepted old key targeted
  · rw [List.mem_singleton.mp new, targets] at targeted
    cases targeted

/-- Each committed call extends the log of its saga by itself. -/
theorem recorded_effect (wellFormed : WellFormed s.db)
    (after : WellFormed db) (effect : Effect s.db readings call db) :
    Recorded ⟨db, sessions, s.accepted ++ [(caller, call)]⟩ := by
  cases effect with
  | reserved intent digest now stamp => exact recorded.reserve wellFormed after
  | advanced _ current next update row now stamp asked allowed present matched =>
    have found : row.sagaKey = (current.tenantID, current.sagaID) :=
      Prod.ext matched.tenantID matched.sagaID
    rw [applyAll_advanceWrites]
    refine recorded.change wellFormed present ?_ ?_ (fun _ => rfl) (fun _ => rfl) rfl rfl ?_ ?_
    · simp [SagaRow.atVersion, found, matched.version, matched.stage]
    · exact fun other held => (atVersion_sagaKey held).trans found.symm
    · rw [target_of_change asked, ← matched.tenantID, ← matched.idempotencyKey]
      rfl
    rw [← matched.stage]
    exact .changed caller now _ (recorded.log row present)
      (.advance call current next update asked allowed matched)
  | claimed tenantID owner limit lease now keys stamp rows => exact recorded.claim rfl
  | resolved current owner authorization update row approval used leasedUntil leasedAt checked now
      consumed stamp present keyed sagaID version unknown named isOwner =>
    rw [applyAll_resolveWrites]
    refine recorded.change wellFormed present ?_ ?_ (fun _ => rfl) (fun _ => rfl) rfl rfl ?_ ?_
    · simp [SagaRow.leasedUnknown, SagaRow.sagaKey, unknown, isOwner]
    · exact fun other held => leasedUnknown_sagaKey held
    · exact congrArg some keyed.symm
    rw [← unknown]
    exact .changed caller now _ (recorded.log row present)
      (.resolve current owner authorization update unknown version)

end

end

theorem recorded_of_reaches (reached : postgres.Reaches emptyStore config) :
    Recorded config.shared := by
  induction reached with
  | refl => exact ⟨fun _ none => absurd none List.not_mem_nil, fun _ none => absurd none List.not_mem_nil⟩
  | @tail middle later action reached taken ih =>
    have wellFormed := (guarded_of_reaches reached).wellFormed
    obtain ⟨⟨db, sessions, accepted⟩, threads⟩ := later
    cases stepped_of_reaches reached taken with
    | quiet same kept | issued row _ same _ kept =>
      obtain rfl : db = _ := same
      obtain rfl : accepted = _ := kept
      exact ⟨ih.log, ih.known⟩
    | committed caller call effect after kept =>
      obtain rfl : accepted = _ := kept
      exact recorded_effect ih wellFormed after effect

end UmojaFlowOS.Settlement.PostgresSagaStore
