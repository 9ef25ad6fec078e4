import UmojaFlowOS.Settlement.UnknownSagaStore

/-!
# What the store methods commit

For every store call, the writes its transaction holds when it asks for the
commit, in terms of the record it read under the row lock.
-/

namespace UmojaFlowOS.Settlement.PostgresSagaStore

open Go Interaction

/-- The stage change a call asks for: the record it holds, the next stage and the update. -/
def change : StoreCall → Option (SettlementRecord × ExecutionStage × SagaUpdate)
  | .advance current next update => some (current, next, update)
  | .markHeld record reason => some (record, .held, { failureClass := "held", reason := reason })
  | .markUnknown record reason =>
    some (record, .unknown, { failureClass := "unknown", reason := reason })
  | _ => none

def reserveWrites (record : SettlementRecord) : List Write :=
  [.insertSaga record, .insertTransition (transitionRow record .unset .received "intent reserved"),
    .insertOutbox (outboxRow record)]

def advanceWrites (current nextRecord : SettlementRecord) (reason : String) : List Write :=
  [.updateSaga nextRecord current.tenantID current.sagaID current.version current.stage,
    .insertTransition (transitionRow nextRecord current.stage nextRecord.stage reason),
    .insertOutbox (outboxRow nextRecord)]

def resolveWrites (locked nextRecord : SettlementRecord) (owner reason authorizationID : String)
    (now : Time) : List Write :=
  [.resolveSaga nextRecord locked.tenantID locked.sagaID locked.version owner,
    .insertTransition (transitionRow nextRecord .unknown nextRecord.stage reason),
    .insertOutbox (outboxRow nextRecord),
    .consume now owner locked.tenantID locked.sagaID authorizationID]

/-- The locked record is the one the caller holds, as far as `Advance` compares them. -/
structure Matches (current locked : SettlementRecord) : Prop where
  tenantID : locked.tenantID = current.tenantID
  idempotencyKey : locked.idempotencyKey = current.idempotencyKey
  sagaID : locked.sagaID = current.sagaID
  payloadSHA256 : locked.payloadSHA256 = current.payloadSHA256
  version : locked.version = current.version
  stage : locked.stage = current.stage

/-- What `ResolveUnknownSaga` has checked before it writes. -/
structure Resolvable (current : SettlementRecord) (owner : String)
    (authorization : ResolutionAuthorization) (locked : SettlementRecord) (view : View)
    (readings : List Time) : Prop where
  tenantID : locked.tenantID = current.tenantID
  idempotencyKey : locked.idempotencyKey = current.idempotencyKey
  sagaID : locked.sagaID = current.sagaID
  version : locked.version = current.version
  unknown : locked.stage = .unknown
  bound : view.tenantID = current.tenantID
  read : locked ∈ view.reads
  approved : ∃ now ∈ readings, (authorization, now) ∈ view.approvals
  leased : ∃ leasedUntil, ∃ now ∈ readings, now < leasedUntil ∧
    ((locked.tenantID, locked.sagaID), owner, some leasedUntil) ∈ view.leases

/-- The transaction of `call` may commit with the writes of `view`, after the
clock readings `readings`. -/
inductive Ready : StoreCall → View → List Time → Prop
  | reading (call : StoreCall) (view : View) (readings : List Time) :
      view.writes = [] → Ready call view readings
  | reserving (intent : Intent) (digest : String) (now : Time) (view : View)
      (readings : List Time) :
      view.writes = reserveWrites (reservedRecord intent digest now) →
      Ready (.reserve intent digest) view readings
  | advancing (call : StoreCall) (current locked : SettlementRecord) (next : ExecutionStage)
      (update : SagaUpdate) (now : Time) (view : View)
      (readings : List Time) :
      change call = some (current, next, update) → stageAllowsRecord current next = true →
      locked ∈ view.reads → Matches current locked →
      view.writes = advanceWrites current (recordWithUpdate locked next update now) update.reason →
      Ready call view readings
  | claiming (tenantID owner : String) (limit lease : Int) (now : Time) (keys : List String)
      (view : View) (readings : List Time) :
      view.writes = [.lease tenantID keys owner (now + lease)] →
      Ready (.claimUnknownSagas tenantID owner limit lease) view readings
  | resolving (current locked : SettlementRecord) (owner : String)
      (authorization : ResolutionAuthorization) (update : SagaUpdate) (now consumed : Time)
      (view : View) (readings : List Time) :
      trimSpace owner ≠ "" → Resolvable current owner authorization locked view readings →
      view.writes = resolveWrites locked
        (recordWithUpdate locked (resolutionStage authorization.decision)
          (resolutionUpdate authorization update) now)
        owner (resolutionUpdate authorization update).reason authorization.authorizationID consumed →
      Ready (.resolveUnknownSaga current owner authorization update) view readings

/-- A caller's view, the writes it knows to be committed, and the readings of its clock. -/
structure Seen where
  view : View := {}
  committed : List Write := []
  readings : List Time := []

def Seen.observe (seen : Seen) (event : Event sql) : Seen where
  view := seen.view.observe event
  committed :=
    match event with
    | ⟨.run .commit, .ok _⟩ => seen.committed ++ seen.view.writes
    | _ => seen.committed
  readings :=
    match event with
    | ⟨.run (.beginTx _), .ok _⟩ => []
    | ⟨.now, time⟩ => seen.readings ++ [time]
    | _ => seen.readings

def sqlRely : Event sql → Prop
  | ⟨.run (.insertSaga record), .ok (some returned)⟩ => returned = record
  | ⟨.run (.selectSagaForUpdate tenantID idempotencyKey), .ok record⟩ =>
    record.tenantID = tenantID ∧ record.idempotencyKey = idempotencyKey
  | ⟨.run (.selectAuthorizationForUpdate authorization _), .ok authorizationID⟩ =>
    authorizationID = authorization.authorizationID
  | _ => True

/-- Rows are read and locked before anything is written, an authorization is
consumed once, and a commit is ready. -/
def sqlGuar (call : StoreCall) (seen : Seen) : SqlCall → Prop
  | .run (.selectSagaForUpdate _ _) => seen.view.writes = []
  | .run (.updateSaga _ _ _ _ _) => seen.view.writes = []
  | .run (.claimUnknown _ _ _ _ _) => seen.view.writes = []
  | .run (.selectAuthorizationForUpdate _ _) => seen.view.writes = []
  | .run (.selectLease _ _) => seen.view.writes = []
  | .run (.resolveSaga _ _ _ _ _) => seen.view.writes = []
  | .run (.consumeAuthorization _ _ _ _ _) => ∀ write ∈ seen.view.writes,
      ∀ now owner tenantID sagaID id, write ≠ .consume now owner tenantID sagaID id
  | .run .commit => Ready call seen.view seen.readings
  | _ => True

def storeContract (call : StoreCall) : Contract sql Seen where
  rely _ := sqlRely
  guar := sqlGuar call
  observe := Seen.observe

/-- What a stage change reports: a zero record and nothing committed, or exactly the
change asked for. -/
def Changed (current : SettlementRecord) (next : ExecutionStage) (update : SagaUpdate) (seen : Seen)
    (answer : SettlementRecord × Option GoError) : Prop :=
  (answer.2.isSome = true → answer.1 = {} ∧ seen.committed = []) ∧
    (answer.2 = none → ∃ locked now, locked ∈ seen.view.reads ∧ Matches current locked ∧
      stageAllowsRecord current next = true ∧ answer.1 = recordWithUpdate locked next update now ∧
      seen.committed = advanceWrites current answer.1 update.reason)

def Answered : (call : StoreCall) → Seen → call.Answer → Prop
  | .reserve intent digest, seen, (record, owned, err) =>
    (err.isSome = true → owned = false ∧ seen.committed = []) ∧
    (err = none → owned = true → ∃ now, record = reservedRecord intent digest now ∧
      seen.committed = reserveWrites record) ∧
    (err = none → owned = false → seen.committed = [] ∧ record ∈ seen.view.reads ∧
      record.tenantID = intent.tenantID ∧ record.idempotencyKey = intent.idempotencyKey ∧
      record.intentID = intent.id ∧ record.payloadSHA256 = digest)
  | .advance current next update, seen, answer => Changed current next update seen answer
  | .markHeld record reason, seen, err =>
    (record.stage = .held ∧ err = none ∧ seen.committed = []) ∨
      ∃ answered, Changed record .held { failureClass := "held", reason := reason } seen
        (answered, err)
  | .markUnknown record reason, seen, err =>
    (record.stage = .unknown ∧ err = none ∧ seen.committed = []) ∨
      ∃ answered, Changed record .unknown { failureClass := "unknown", reason := reason } seen
        (answered, err)
  | .claimUnknownSagas _ _ _ _, _, _ => True
  | .findResolutionAuthorization tenantID sagaID decision, seen, (a, found, err) =>
    seen.committed = [] ∧ (err = none → found = true →
      ∃ now, validResolutionAuthorization a tenantID sagaID decision now = true)
  | .resolveUnknownSaga _ owner authorization update, seen, (record, err) =>
    (err.isSome = true → seen.committed = []) ∧
    (err = none → ∃ locked now consumed, record =
        recordWithUpdate locked (resolutionStage authorization.decision)
          (resolutionUpdate authorization update) now ∧
      seen.committed = resolveWrites locked record owner
        (resolutionUpdate authorization update).reason authorization.authorizationID consumed)

/-! ## One statement at a time -/

section
variable {call : StoreCall} {α : Type} {post : Seen → α → Prop} {seen : Seen}

theorem clock_meets (next : ∀ now, Meets (storeContract call) post
      ⟨seen.view, seen.committed, seen.readings ++ [now]⟩ (rest now)) :
    Meets (storeContract call) post seen (clock >>= rest) :=
  ⟨trivial, fun now _ => next now⟩

theorem run_meets (guarded : sqlGuar call seen (.run statement))
    (fails : ∀ err, Meets (storeContract call) post
      (seen.observe ⟨.run statement, .error err⟩) (rest (.error err)))
    (next : ∀ rows, sqlRely ⟨.run statement, .ok rows⟩ → Meets (storeContract call) post
      (seen.observe ⟨.run statement, .ok rows⟩) (rest (.ok rows))) :
    Meets (storeContract call) post seen (run statement >>= rest) := by
  refine ⟨guarded, ?_⟩
  rintro (err | rows) told
  · exact fails err
  · exact next rows told

/-- `body` starts with an empty view, and the rollback at its end forgets what
was not committed. -/
theorem withTx_meets (fails : ∀ err, post seen (failed err)) (runs : Meets (storeContract call)
      (fun seen value => post (seen.observe ⟨.rollback, ()⟩) value)
      ⟨⟨tenantID, [], [], [], []⟩, seen.committed, []⟩ body) :
    Meets (storeContract call) post seen (withTx tenantID failed body) := by
  unfold withTx
  split
  · exact fails _
  refine run_meets trivial (fun err => fails err) fun _ _ => ?_
  exact runs.bind fun seen value done => ⟨trivial, fun _ _ => done⟩

theorem insertTransitionAndOutbox_meets (fails : ∀ err later, later.committed = seen.committed →
      Meets (storeContract call) post later (rest (some err)))
    (succeeds : Meets (storeContract call) post
      ⟨{ seen.view with writes := seen.view.writes ++
        [.insertTransition (transitionRow record source target reason)] ++
        [.insertOutbox (outboxRow record)] }, seen.committed, seen.readings⟩ (rest none)) :
    Meets (storeContract call) post seen
      (insertTransitionAndOutbox record source target reason >>= rest) := by
  refine run_meets trivial (fun _ => fails _ _ rfl) fun _ _ => ?_
  exact run_meets trivial (fun _ => fails _ _ rfl) fun _ _ => succeeds

end

/-! ## The methods keep the contract -/

-- The methods are run symbolically: their pure checks are not to be unfolded.
attribute [local irreducible] validateReservedIntent trimSpace stageAllowsRecord
  validResolutionAuthorization

theorem reserve_meets (intent : Intent) (digest : String) :
    Meets (storeContract (.reserve intent digest)) (Answered (.reserve intent digest)) {}
      (reserve intent digest) := by
  have refused : ∀ {seen : Seen} (err : GoError), seen.committed = [] →
      Answered (.reserve intent digest) seen ({}, false, some err) :=
    fun err kept => ⟨fun _ => ⟨rfl, kept⟩, nofun, nofun⟩
  refine clock_meets fun now => ?_
  split
  · exact refused _ rfl
  refine withTx_meets (fun err => refused err rfl) (clock_meets fun now => ?_)
  refine run_meets trivial (fun err => refused err rfl) ?_
  rintro (_ | record) same
  · refine run_meets rfl (fun err => refused err rfl) fun record keyed => ?_
    dsimp only
    split
    · exact refused _ rfl
    rename_i same
    obtain ⟨sameIntent, sameDigest⟩ : record.intentID = intent.id ∧ record.payloadSHA256 = digest := by
      simpa using same
    refine run_meets (.reading _ _ _ rfl) (fun err => refused err rfl) fun _ _ => ?_
    exact ⟨nofun, nofun, fun _ _ =>
      ⟨rfl, List.mem_singleton.mpr rfl, keyed.1, keyed.2, sameIntent, sameDigest⟩⟩
  obtain rfl : record = _ := same
  refine insertTransitionAndOutbox_meets (fun err later kept => refused err kept) ?_
  refine run_meets (.reserving intent digest now _ _ rfl) (fun err => refused err rfl) fun _ _ => ?_
  exact ⟨nofun, fun _ _ => ⟨now, rfl, rfl⟩, nofun⟩

/-- `Advance` commits exactly the change asked for. -/
theorem advance_meets {call : StoreCall} (current : SettlementRecord) (next : ExecutionStage)
    (update : SagaUpdate) (asked : change call = some (current, next, update)) :
    Meets (storeContract call) (Changed current next update) {} (advance current next update) := by
  have refused : ∀ {seen : Seen} (err : GoError), seen.committed = [] →
      Changed current next update seen ({}, some err) := fun err kept =>
        ⟨fun _ => ⟨rfl, kept⟩, nofun⟩
  unfold advance
  split
  · exact refused _ rfl
  split
  · split
    · exact refused _ rfl
    · exact refused _ rfl
  rename_i allowed
  refine withTx_meets (fun err => refused err rfl) ?_
  refine run_meets rfl (fun err => refused err rfl) fun locked keyed => ?_
  dsimp only
  split
  · exact refused _ rfl
  rename_i unchanged
  have matched : Matches current locked := by
    simp only [not_or, not_not] at unchanged
    exact ⟨keyed.1, keyed.2, unchanged.1, unchanged.2.1, unchanged.2.2.1, unchanged.2.2.2⟩
  refine clock_meets fun now => run_meets rfl (fun err => refused err rfl) fun affected _ => ?_
  dsimp only
  split
  · exact refused _ rfl
  rename_i one
  obtain rfl := not_not.mp one
  refine insertTransitionAndOutbox_meets (fun err later kept => refused err kept) ?_
  refine run_meets (.advancing call current locked next update now _ _ asked
    (by simpa using allowed) (List.mem_singleton.mpr rfl) matched rfl)
    (fun err => refused err rfl) fun _ _ => ?_
  exact ⟨nofun, fun _ => ⟨locked, now, List.mem_singleton.mpr rfl, matched, by simpa using allowed,
    rfl, rfl⟩⟩

theorem markHeld_meets (record : SettlementRecord) (reason : String) :
    Meets (storeContract (.markHeld record reason)) (Answered (.markHeld record reason)) {}
      (markHeld record reason) := by
  unfold markHeld
  split
  case isTrue held => exact .inl ⟨held, rfl, rfl⟩
  case isFalse =>
    exact (advance_meets record .held _ rfl).bind fun seen answer changed => .inr ⟨answer.1, changed⟩

theorem markUnknown_meets (record : SettlementRecord) (reason : String) :
    Meets (storeContract (.markUnknown record reason)) (Answered (.markUnknown record reason)) {}
      (markUnknown record reason) := by
  unfold markUnknown
  split
  case isTrue unknown => exact .inl ⟨unknown, rfl, rfl⟩
  case isFalse =>
    exact (advance_meets record .unknown _ rfl).bind
      fun seen answer changed => .inr ⟨answer.1, changed⟩

theorem load_meets {call : StoreCall} (tenantID key : String) :
    Meets (storeContract call) (fun _ _ => True) seen (load tenantID key) := by
  refine withTx_meets (fun _ => trivial) (run_meets rfl (fun _ => trivial) fun record _ => ?_)
  exact run_meets (.reading _ _ _ rfl) (fun _ => trivial) fun _ _ => trivial

theorem loadAll_meets {call : StoreCall} (tenantID : String)
    (loaded : List SettlementRecord) (keys : List String) :
    Meets (storeContract call) (fun _ _ => True) seen (loadAll tenantID loaded keys) := by
  induction keys generalizing seen loaded with
  | nil => trivial
  | cons key keys ih =>
    refine (load_meets tenantID key).bind ?_
    rintro seen ⟨record, err⟩ -
    dsimp only
    split
    · trivial
    · exact ih _

theorem claimTx_meets (tenantID owner : String) (limit lease : Int) :
    Meets (storeContract (.claimUnknownSagas tenantID owner limit lease)) (fun _ _ => True) {}
      (withTx tenantID .error (claimTx tenantID owner limit lease)) := by
  refine withTx_meets (fun _ => trivial) (clock_meets fun now => ?_)
  refine run_meets rfl (fun _ => trivial) fun keys _ => ?_
  exact run_meets (.claiming tenantID owner limit lease now keys _ _ rfl) (fun _ => trivial)
    fun _ _ => trivial

theorem claimUnknownSagas_meets (tenantID owner : String) (limit lease : Int) :
    Meets (storeContract (.claimUnknownSagas tenantID owner limit lease)) (fun _ _ => True) {}
      (claimUnknownSagas tenantID owner limit lease) := by
  unfold claimUnknownSagas
  split
  · trivial
  refine (claimTx_meets tenantID owner limit lease).bind ?_
  rintro seen (err | keys) -
  · trivial
  · exact loadAll_meets tenantID [] keys

theorem findResolutionAuthorization_meets (tenantID sagaID : String) (decision : Decision) :
    Meets (storeContract (.findResolutionAuthorization tenantID sagaID decision))
      (Answered (.findResolutionAuthorization tenantID sagaID decision)) {}
      (findResolutionAuthorization tenantID sagaID decision) := by
  have commits : ∀ {seen : Seen}, seen.view.writes = [] → Ready
      (.findResolutionAuthorization tenantID sagaID decision) seen.view seen.readings := .reading _ _ _
  unfold findResolutionAuthorization
  split
  · exact ⟨rfl, nofun⟩
  refine withTx_meets (fun _ => ⟨rfl, nofun⟩) (clock_meets fun now => ?_)
  refine run_meets trivial (fun err => ?_) fun a _ => clock_meets fun now => ?_
  · cases err
    case noRows => exact run_meets (commits rfl) (fun _ => ⟨rfl, nofun⟩) fun _ _ => ⟨rfl, nofun⟩
    all_goals exact ⟨rfl, nofun⟩
  split
  · exact ⟨rfl, nofun⟩
  rename_i valid
  exact run_meets (commits rfl) (fun _ => ⟨rfl, nofun⟩)
    fun _ _ => ⟨rfl, fun _ _ => ⟨now, by simpa using valid⟩⟩

/-- `ResolveUnknownSaga` commits only under the lease and an authorization. -/
theorem resolveUnknownSaga_meets (current : SettlementRecord) (owner : String)
    (authorization : ResolutionAuthorization) (update : SagaUpdate) :
    Meets (storeContract (.resolveUnknownSaga current owner authorization update))
      (Answered (.resolveUnknownSaga current owner authorization update)) {}
      (resolveUnknownSaga current owner authorization update) := by
  have refused : ∀ {seen : Seen} (err : GoError), seen.committed = [] →
      Answered (.resolveUnknownSaga current owner authorization update) seen ({}, some err) :=
    fun err kept => ⟨fun _ => kept, nofun⟩
  unfold resolveUnknownSaga
  split
  · exact refused _ rfl
  rename_i entered
  split
  · exact refused _ rfl
  refine withTx_meets (fun err => refused err rfl) ?_
  refine run_meets rfl (fun err => refused err rfl) fun locked keyed => ?_
  dsimp only
  split
  · exact refused _ rfl
  rename_i unchanged
  simp only [not_or, not_not] at entered unchanged
  obtain ⟨sameSaga, unknown, sameVersion⟩ := unchanged
  refine clock_meets fun checked => run_meets rfl (fun err => ?_) fun authorizationID same => ?_
  · cases err <;> exact refused _ rfl
  obtain rfl : authorizationID = authorization.authorizationID := same
  refine run_meets rfl (fun err => refused err rfl) ?_
  rintro ⟨leaseOwner, leased⟩ -
  refine clock_meets fun leasedAt => ?_
  split
  · exact refused _ rfl
  rename_i holds
  rcases leased with _ | leasedUntil
  · simp at holds
  obtain ⟨rfl, unexpired⟩ : leaseOwner = owner ∧ leasedAt < leasedUntil := by simpa using holds
  refine clock_meets fun now => run_meets rfl (fun err => refused err rfl) fun affected _ => ?_
  dsimp only
  split
  · exact refused _ rfl
  rename_i one
  obtain rfl := not_not.mp one
  refine insertTransitionAndOutbox_meets (fun err later kept => refused err kept) ?_
  refine clock_meets fun consumed => run_meets ?_ (fun err => refused err rfl) fun affected _ => ?_
  · show ∀ write ∈ [Write.resolveSaga _ _ _ _ _, .insertTransition _, .insertOutbox _], _
    simp
  dsimp only
  split
  · exact refused _ rfl
  rename_i one
  obtain rfl := not_not.mp one
  refine run_meets (.resolving current locked leaseOwner authorization update now consumed _ _
    entered.1 ?_ rfl) (fun err => refused err rfl) fun _ _ => ?_
  · exact ⟨keyed.1, keyed.2, sameSaga, sameVersion, unknown, rfl, List.mem_singleton.mpr rfl,
      ⟨checked, .head _, List.mem_singleton.mpr rfl⟩, leasedUntil, leasedAt, .tail _ (.head _), unexpired,
      List.mem_singleton.mpr rfl⟩
  · exact ⟨nofun, fun _ => ⟨locked, now, consumed, rfl, rfl⟩⟩

/-- Every store method keeps the contract of its call. -/
theorem serve_meets (call : StoreCall) :
    Meets (storeContract call) (Answered call) {} (serve call) := by
  cases call with
  | reserve intent digest => exact reserve_meets intent digest
  | advance current next update => exact advance_meets current next update rfl
  | markHeld record reason => exact markHeld_meets record reason
  | markUnknown record reason => exact markUnknown_meets record reason
  | claimUnknownSagas tenantID owner limit lease =>
    exact (claimUnknownSagas_meets tenantID owner limit lease).mono fun _ _ _ => trivial
  | findResolutionAuthorization tenantID sagaID decision =>
    exact findResolutionAuthorization_meets tenantID sagaID decision
  | resolveUnknownSaga current owner authorization update =>
    exact resolveUnknownSaga_meets current owner authorization update

end UmojaFlowOS.Settlement.PostgresSagaStore
