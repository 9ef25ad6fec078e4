import UmojaFlowOS.Payments.PaymentStore

/-!
# What the calls of the workflow ask

A contract that every call keeps: rows are locked before anything is written, and a
transaction is committed only with a complete change, made on rows that were read under a
lock and have passed the checks.
-/

namespace UmojaFlowOS.Payments

open Interaction

/-! ## What a caller has seen -/

/-- The locks that an answer shows to be bound. -/
def PaymentView.learns (view : PaymentView) : Event paymentCalls → List Uuid
  | ⟨.run .commit, .ok _⟩ => view.writes.filterMap fun
    | .bind lock _ => some lock
    | _ => none
  | ⟨.run (.selectReplay _), .ok (some replay)⟩ => replay.boundLockID.toList
  | _ => []

/-- An order was found that no lock is bound to. -/
def orphaned : Event paymentCalls → Bool
  | ⟨.run (.selectReplay _), .ok (some replay)⟩ => replay.boundLockID.isNone
  | _ => false

/-- What a caller knows: its transaction, the clock as it was last read, and the locks that
are bound. -/
structure PaymentSeen where
  view : PaymentView := {}
  clock : Option Int := none
  bound : List Uuid := []
  orphan : Bool := false

def PaymentSeen.after (seen : PaymentSeen) (event : Event paymentCalls) : PaymentSeen where
  view := seen.view.after event
  clock :=
    match event with
    | ⟨.now, time⟩ => some time
    | _ => seen.clock
  bound := seen.view.learns event ++ seen.bound
  orphan := seen.orphan || orphaned event

def paymentSeenIn (past : List (Event paymentCalls)) : PaymentSeen := past.foldl PaymentSeen.after {}

theorem paymentSeenIn_concat (past : List (Event paymentCalls)) (event : Event paymentCalls) :
    paymentSeenIn (past ++ [event]) = (paymentSeenIn past).after event := by
  rw [paymentSeenIn, List.foldl_append]
  rfl

/-! ## The contract -/

/-- What an answer has in common with the call, whatever the tables hold. -/
def honest : Event paymentCalls → Prop
  | ⟨.run (.selectLock id), .ok (some row)⟩ => row.id = id
  | ⟨.run (.cancelLock id), .ok (some changed)⟩ => changed = id
  | ⟨.run (.derive source rate), .ok target⟩ => target = (source.mul rate).roundTo 8
  | ⟨.run (.insertOrder new), .ok (some id)⟩ => 0 < (new.row id).sourceAmount.unscaled
  | ⟨.run (.selectOrder id), .ok (some row)⟩ => row.id = id
  | ⟨.run (.updateOrder _ id), .ok (some changed)⟩ => changed = id
  | ⟨.run (.selectLeg id), .ok (some (row, _))⟩ => row.id = id
  | ⟨.run (.updateLeg _ id), .ok (some changed)⟩ => changed = id
  | _ => True

/-- The changes that a transaction may be committed with, and what was read before. -/
inductive Complete (job : PaymentJob) (seen : PaymentSeen) : Prop
  | nothing : seen.view.writes = [] → Complete job seen
  | created (new : NewLock) (id : Uuid) (event : ActivityEvent) :
      seen.view.writes = [.insertLock (new.row id), .event event] → Complete job seen
  | expired (ids : List Uuid) (events : List ActivityEvent) :
      seen.view.writes = .lockStatus ids .expired :: events.map .event → Complete job seen
  | cancelled (row : RateLock) (event : ActivityEvent) :
      .lock row ∈ seen.view.reads →
      (.binding row.id none ∈ seen.view.reads ∨ job.task = .cancelRateLockRouted row.id) →
      seen.view.writes = [.lockStatus [row.id] .cancelled, .event event] → Complete job seen
  | drafted (row : RateLock) (new : NewOrder) (id : Uuid) (time : Int) (amount : String) :
      .lock row ∈ seen.view.reads → row.status = .locked → row.paymentOrderID = none →
      seen.clock = some time → time < row.expiresAt →
      0 < (new.row id).sourceAmount.unscaled → new.sourceAmount.scale ≤ 12 →
      new.targetAmount = (new.sourceAmount.mul row.lockedRate).roundTo 8 →
      new.targetAmount ≠ ⟨0, 8⟩ →
      seen.view.writes = [.insertOrder (new.row id),
        .event (draftedEvent job.actor row new amount id), .bind row.id id,
        .event (consumedEvent job.actor row id)] →
      Complete job seen
  | legDrafted (order : PaymentOrder) (new : NewLeg) (id : Uuid) (event : ActivityEvent) :
      .order order ∈ seen.view.reads → new.paymentOrderID = order.id →
      seen.view.writes = [.insertLeg (new.row id), .event event] → Complete job seen
  | orderMoved (row : PaymentOrder) (status : PaymentStatus) (reason : String) :
      .order row ∈ seen.view.reads → status ∈ internalOrderTransitions row.status →
      (status = .approved → row.policyDecisionID ≠ none) →
      seen.view.writes = [.orderStatus row.id status,
        .event (orderEvent job.actor row.id row.status status.text reason)] → Complete job seen
  | legMoved (row : PaymentLeg) (orderStatus status : PaymentStatus) (reason : String) :
      .leg row orderStatus ∈ seen.view.reads → status ∈ internalLegTransitions row.status →
      (status = .approved → orderStatus = .approved) →
      seen.view.writes = [.legStatus row.id status,
        .event (legEvent job.actor row.id row orderStatus status.text reason)] → Complete job seen

def PaymentSeen.permits (job : PaymentJob) (seen : PaymentSeen) : PaymentCall → Prop
  | .run .commit => Complete job seen
  | .run (.insertLock _) => seen.view.writes = []
  | .run (.insertOrder _) => seen.view.writes = []
  | .run (.insertLeg _) => seen.view.writes = []
  | .run (.selectLock _) => seen.view.writes = []
  | .run (.selectBinding id) => seen.view.writes = [] ∧ ∃ row, .lock row ∈ seen.view.reads ∧ row.id = id
  | .run (.selectReplay _) => seen.view.writes = []
  | .run (.selectOrder _) => seen.view.writes = []
  | .run (.startSelectLeg _) => seen.view = {}
  | .run (.selectLeg _) => seen.view.writes = []
  | _ => True

def paymentContract (job : PaymentJob) : Contract paymentCalls PaymentSeen where
  rely _ := honest
  guar := PaymentSeen.permits job
  observe := PaymentSeen.after

@[simp] theorem paymentContract_observe (job : PaymentJob) :
    (paymentContract job).observe = PaymentSeen.after := rfl

/-! ## Code that may throw -/

/-- Code that keeps a contract and ends, if it does not throw, with `post`. -/
def Keeps {α γ : Type} (K : Contract paymentCalls γ) (post : γ → α → Prop) (seen : γ)
    (code : PaymentCode α) : Prop :=
  Meets K (fun later result => ∀ value, result = .ok value → post later value) seen code.run

section
variable {α β γ : Type} {K : Contract paymentCalls γ} {post : γ → α → Prop} {seen : γ}

theorem keeps_pure (ends : post seen value) : Keeps K post seen (pure value) := by
  intro result same
  cases same
  exact ends

theorem keeps_throw (text : String) : Keeps K post seen (throw text) := by
  intro result same
  cases same

/-- A check that throws. -/
theorem keeps_unless {condition : Prop} [Decidable condition]
    (next : ¬ condition → Keeps K post seen rest) :
    Keeps K post seen (if condition then throw text else rest) := by
  split
  · exact keeps_throw text
  · exact next ‹_›

theorem keeps_query (permitted : K.guar seen (.run statement))
    (next : ∀ rows, K.rely seen ⟨.run statement, .ok rows⟩ →
      Keeps K post (K.observe seen ⟨.run statement, .ok rows⟩) (rest rows)) :
    Keeps K post seen (query statement >>= rest) := by
  refine ⟨permitted, fun answer given => ?_⟩
  cases answer with
  | error text => exact fun value same => absurd same nofun
  | ok rows => exact next rows given

theorem keeps_now (permitted : K.guar seen .now)
    (next : ∀ time, Keeps K post (K.observe seen ⟨.now, time⟩) (rest time)) :
    Keeps K post seen (now >>= rest) :=
  ⟨permitted, fun time _ => next time⟩

theorem keeps_randomUUID (permitted : K.guar seen .randomUUID)
    (next : ∀ id, Keeps K post (K.observe seen ⟨.randomUUID, id⟩) (rest id)) :
    Keeps K post seen (randomUUID >>= rest) :=
  ⟨permitted, fun id _ => next id⟩

variable {code : PaymentCode α}

theorem Keeps.mono {later : γ → α → Prop} (keeps : Keeps K post seen code)
    (implies : ∀ seen value, post seen value → later seen value) : Keeps K later seen code :=
  Meets.mono keeps fun _ _ ends value same => implies _ _ (ends value same)

theorem Keeps.map {post : γ → β → Prop}
    (keeps : Keeps K (fun later value => post later (f value)) seen code) :
    Keeps K post seen (f <$> code) := by
  refine Meets.bind keeps fun later result ends => ?_
  rcases result with text | value
  · exact fun value same => absurd same nofun
  intro result same
  cases same
  exact ends value rfl

theorem keeps_transaction (begins : K.guar seen (.run .begin))
    (gives_up : ∀ later, K.guar later .rollback)
    (keeps : Keeps K post (K.observe seen ⟨.run .begin, .ok ()⟩) code) :
    Keeps K post seen (transaction code) := by
  have body : Keeps K post seen (query .begin >>= fun _ => code) :=
    keeps_query begins fun _ _ => keeps
  refine Meets.bind body fun later result ends => ?_
  cases result with
  | error text => exact ⟨gives_up later, fun _ _ value same => absurd same nofun⟩
  | ok value => exact ends

end

/-! ## The functions -/

section
variable {α : Type} {job : PaymentJob} {seen : PaymentSeen} {post : PaymentSeen → α → Prop}

theorem transaction_keeps
    (keeps : ∀ clock bound orphan, Keeps (paymentContract job) post ⟨{}, clock, bound, orphan⟩ code) :
    Keeps (paymentContract job) post seen (transaction code) :=
  keeps_transaction trivial (fun _ => trivial) (keeps _ _ _)

theorem keeps_recordAll
    (next : ∀ later : PaymentSeen, later.view.writes = seen.view.writes ++ events.map .event →
      Keeps (paymentContract job) post later rest) :
    Keeps (paymentContract job) post seen (recordAll events >>= fun _ => rest) := by
  induction events generalizing seen with
  | nil => exact next seen (by simp)
  | cons event events ih =>
    rw [recordAll, bind_assoc]
    refine keeps_query trivial fun _ _ => ih fun later written => next later ?_
    rw [written]
    simp [PaymentSeen.after, PaymentView.after, PaymentView.observe, PaymentView.write]

abbrev anything {α : Type} : PaymentSeen → α → Prop := fun _ _ => True

theorem createRateLock_keeps (actor : Actor) (observation : Uuid) (corridor : Corridor)
    (expiresAt : Int) :
    Keeps (paymentContract job) anything seen (createRateLock actor observation corridor expiresAt) := by
  refine transaction_keeps fun clock bound orphan => keeps_query trivial fun source _ => ?_
  rcases source with _ | source
  · exact keeps_throw _
  refine keeps_now trivial fun time => ?_
  refine keeps_unless fun _ => ?_
  refine keeps_query rfl fun inserted _ => ?_
  cases inserted with
  | none => exact keeps_throw _
  | some id =>
    refine keeps_query trivial fun _ _ => keeps_query ?_ fun _ _ => keeps_pure trivial
    exact .created _ id _ rfl

theorem cancelRateLockRouted_keeps (routed : job.task = .cancelRateLockRouted rateLockID) :
    Keeps (paymentContract job) anything seen (cancelRateLockRouted job.actor rateLockID) := by
  refine transaction_keeps fun clock bound orphan => keeps_query rfl fun found same => ?_
  rcases found with _ | row
  · exact keeps_throw _
  subst same
  refine keeps_unless fun _ => ?_
  refine keeps_query trivial fun changed _ => ?_
  cases changed with
  | none => exact keeps_throw _
  | some id =>
    refine keeps_query trivial fun _ _ => keeps_query ?_ fun _ _ => keeps_pure trivial
    exact .cancelled row _ (List.mem_singleton_self _) (.inr routed) rfl

theorem cancelRateLock_keeps (actor : Actor) (rateLockID : Uuid) (reason : String) :
    Keeps (paymentContract job) anything seen (cancelRateLock actor rateLockID reason) := by
  refine keeps_unless fun _ => ?_
  refine transaction_keeps fun clock bound orphan => keeps_query rfl fun found same => ?_
  rcases found with _ | row
  · exact keeps_throw _
  subst same
  refine keeps_unless fun _ => ?_
  refine keeps_query ⟨rfl, row, List.mem_singleton_self _, rfl⟩ fun consuming _ => ?_
  refine keeps_unless fun unbound => ?_
  refine keeps_query trivial fun changed _ => ?_
  rcases changed with _ | id
  · exact keeps_throw _
  refine keeps_query trivial fun _ _ => keeps_query ?_ fun _ _ => keeps_pure trivial
  have free : consuming.getD none = none := by simpa using unbound
  refine .cancelled row _ (List.mem_cons_self ..) (.inl ?_) rfl
  show PaymentRead.binding row.id none ∈ [.lock row, .binding row.id (consuming.getD none)]
  rw [free]
  exact List.mem_cons_of_mem _ (by simp)

theorem expireRateLocks_keeps (actor : Actor) :
    Keeps (paymentContract job) anything seen (expireRateLocks actor) := by
  refine transaction_keeps fun clock bound orphan => keeps_query trivial fun rows _ => ?_
  refine keeps_recordAll fun later written => keeps_query ?_ fun _ _ => keeps_pure trivial
  exact .expired _ _ written

theorem evaluateRegulatoryDeadlines_keeps (actor : Actor) (time : Int) :
    Keeps (paymentContract job) anything seen (evaluateRegulatoryDeadlines actor time) := by
  refine transaction_keeps fun clock bound orphan => keeps_query trivial fun rows _ => ?_
  refine keeps_randomUUID trivial fun id => keeps_query trivial fun _ _ => ?_
  refine keeps_query ?_ fun _ _ => keeps_pure trivial
  exact .expired (rows.map (·.id)) [_] rfl

/-- How a successful draft ends: the lock is bound, or an order was found without one. -/
abbrev DraftEnds (input : OrderInput) (later : PaymentSeen) (_ : DraftedOrder) : Prop :=
  input.rateLockID ∈ later.bound ∨ later.orphan = true

variable {input : OrderInput}

theorem replayOrder_keeps (own : lock.id = input.rateLockID) (unwritten : seen.view.writes = []) :
    Keeps (paymentContract job) (DraftEnds input) seen (replayOrder input lock) := by
  refine keeps_query unwritten fun found _ => ?_
  rcases found with _ | replay
  · exact keeps_throw _
  refine keeps_unless fun same => ?_
  refine keeps_query (.nothing unwritten) fun _ _ => keeps_pure ?_
  rcases bound : replay.boundLockID with _ | other
  · right
    simp [PaymentSeen.after, orphaned, bound]
  left
  have equal : other = lock.id := by simpa [bound] using same
  simp [PaymentSeen.after, PaymentView.learns, bound, equal, own]

theorem bindOrder_keeps {id : Uuid} (own : lock.id = input.rateLockID)
    (read : .lock lock ∈ seen.view.reads) (live : lock.status = .locked)
    (unbound : lock.paymentOrderID = none) (clock : seen.clock = some time)
    (early : time < lock.expiresAt) (positive : 0 < (new.row id).sourceAmount.unscaled)
    (places : new.sourceAmount.scale ≤ 12)
    (derived : new.targetAmount = (new.sourceAmount.mul lock.lockedRate).roundTo 8)
    (usable : new.targetAmount ≠ ⟨0, 8⟩)
    (written : seen.view.writes = [.insertOrder (new.row id)]) :
    Keeps (paymentContract job) (DraftEnds input) seen (bindOrder job.actor input lock new id) := by
  refine keeps_query trivial fun _ _ => keeps_query trivial fun rowCount _ => ?_
  refine keeps_unless fun once => ?_
  obtain rfl : rowCount = 1 := not_not.mp once
  refine keeps_query trivial fun _ _ => keeps_query ?_ fun _ _ => keeps_pure ?_
  · refine .drafted lock new id time input.sourceAmount read live unbound clock early positive places derived usable ?_
    show seen.view.writes ++ [_] ++ [_] ++ [_] = _
    rw [written]
    rfl
  left
  show input.rateLockID ∈ (seen.view.writes ++ [_] ++ [_] ++ [_]).filterMap _ ++ _
  rw [written, ← own]
  simp

theorem draftOrder_keeps (own : lock.id = input.rateLockID) (places : source.scale ≤ 12)
    (read : .lock lock ∈ seen.view.reads) (live : lock.status = .locked)
    (unbound : lock.paymentOrderID = none) (clock : seen.clock = some time)
    (early : time < lock.expiresAt) (unwritten : seen.view.writes = []) :
    Keeps (paymentContract job) (DraftEnds input) seen (draftOrder job.actor input source lock) := by
  refine keeps_query trivial fun beneficiary _ => ?_
  rcases beneficiary with _ | beneficiary
  · exact keeps_throw _
  refine keeps_unless fun _ => ?_
  refine keeps_unless fun _ => ?_
  refine keeps_query trivial fun target derived => ?_
  refine keeps_unless fun usable => ?_
  refine keeps_query unwritten fun inserted positive => ?_
  rcases inserted with _ | id
  · exact replayOrder_keeps own unwritten
  refine bindOrder_keeps own read live unbound clock early positive places derived usable ?_
  show seen.view.writes ++ [_] = _
  rw [unwritten]
  rfl

theorem createPaymentOrder_keeps (input : OrderInput) :
    Keeps (paymentContract job) (DraftEnds input) seen (createPaymentOrder job.actor input) := by
  unfold createPaymentOrder
  split
  · exact keeps_throw _
  rename_i source amount
  refine keeps_unless fun _ => ?_
  refine transaction_keeps fun clock bound orphan => keeps_query rfl fun found own => ?_
  rcases found with _ | lock
  · exact keeps_throw _
  refine keeps_unless fun live => ?_
  refine keeps_now trivial fun time => ?_
  refine keeps_unless fun early => ?_
  refine keeps_unless fun unbound => ?_
  refine draftOrder_keeps own (TypeScript.readDecimal_bounds amount).2 (List.mem_singleton_self _)
    (not_not.mp live) (by simpa using unbound) rfl (not_le.mp early) rfl

theorem exists_of_includes (included : includes transitions status = true) :
    ∃ state ∈ transitions, state.text = status := by
  simpa [includes] using included

theorem transitionPaymentOrder_keeps (id : Uuid) (status reason : String) :
    Keeps (paymentContract job) anything seen (transitionPaymentOrder job.actor id status reason) := by
  refine keeps_unless fun _ => ?_
  refine keeps_unless fun _ => ?_
  refine transaction_keeps fun clock bound orphan => keeps_query rfl fun found same => ?_
  rcases found with _ | row
  · exact keeps_throw _
  subst same
  refine keeps_unless fun included => ?_
  obtain ⟨state, allowed, rfl⟩ := exists_of_includes (not_not.mp included)
  refine keeps_unless fun decided => ?_
  refine keeps_query trivial fun changed same => ?_
  rcases changed with _ | id
  · exact keeps_throw _
  subst same
  refine keeps_query trivial fun _ _ => keeps_query ?_ fun _ _ => keeps_pure trivial
  refine .orderMoved row state reason (by simp [PaymentSeen.after, PaymentView.after,
    PaymentView.observe, PaymentView.read, PaymentView.write]) allowed ?_ ?_
  · rintro rfl missing
    exact decided ⟨rfl, missing⟩
  · simp [PaymentSeen.after, PaymentView.after, PaymentView.observe, PaymentView.read,
      PaymentView.write]

theorem createPaymentLeg_keeps (actor : Actor) (input : LegInput) :
    Keeps (paymentContract job) anything seen (createPaymentLeg actor input) := by
  refine keeps_unless fun _ => ?_
  refine transaction_keeps fun clock bound orphan => keeps_query rfl fun found same => ?_
  rcases found with _ | row
  · exact keeps_throw _
  refine keeps_unless fun _ => ?_
  refine keeps_query trivial fun count _ => ?_
  refine keeps_unless fun _ => ?_
  refine keeps_query rfl fun inserted _ => ?_
  rcases inserted with _ | id
  · exact keeps_throw _
  refine keeps_query trivial fun _ _ => keeps_query ?_ fun _ _ => keeps_pure trivial
  refine .legDrafted row ⟨input.paymentOrderID, _, _, _⟩ id _ (List.mem_singleton_self _) ?_ rfl
  exact Eq.symm same

theorem transitionPaymentLeg_keeps (id : Uuid) (status reason : String) :
    Keeps (paymentContract job) anything seen (transitionPaymentLeg job.actor id status reason) := by
  refine keeps_unless fun _ => ?_
  refine keeps_unless fun _ => ?_
  refine transaction_keeps fun clock bound orphan => keeps_query rfl fun _ _ => ?_
  refine keeps_query rfl fun found same => ?_
  rcases found with _ | found
  · exact keeps_throw _
  obtain ⟨row, orderStatus⟩ := found
  change row.id = id at same
  subst same
  refine keeps_unless fun included => ?_
  obtain ⟨state, allowed, rfl⟩ := exists_of_includes (not_not.mp included)
  refine keeps_unless fun decided => ?_
  refine keeps_query trivial fun changed same => ?_
  rcases changed with _ | id
  · exact keeps_throw _
  subst same
  refine keeps_query trivial fun _ _ => keeps_query ?_ fun _ _ => keeps_pure trivial
  refine .legMoved row orderStatus state reason (by simp [PaymentSeen.after, PaymentView.after,
    PaymentView.observe, PaymentView.read, PaymentView.write]) allowed ?_ ?_
  · rintro rfl
    exact not_not.mp fun other => decided ⟨rfl, other⟩
  · simp [PaymentSeen.after, PaymentView.after, PaymentView.observe, PaymentView.read,
      PaymentView.write]

def JobEnds (job : PaymentJob) (later : PaymentSeen) (outcome : PaymentOutcome) : Prop :=
  match job.task with
  | .createPaymentOrder input => ∃ order, outcome = .drafted order ∧ DraftEnds input later order
  | _ => True

/-- Every call of the workflow keeps the contract. -/
theorem code_keeps (job : PaymentJob) : Keeps (paymentContract job) (JobEnds job) {} job.code := by
  obtain ⟨actor, task⟩ := job
  cases task <;> refine Keeps.map ?_
  case createRateLock => exact createRateLock_keeps _ _ _ _
  case expireRateLocks => exact expireRateLocks_keeps _
  case evaluateRegulatoryDeadlines => exact evaluateRegulatoryDeadlines_keeps _ _
  case cancelRateLock => exact cancelRateLock_keeps _ _ _
  case cancelRateLockRouted => exact cancelRateLockRouted_keeps rfl
  case createPaymentOrder input =>
    exact (createPaymentOrder_keeps input).mono fun _ order ends => ⟨order, rfl, ends⟩
  case createPaymentLeg => exact createPaymentLeg_keeps _ _
  case transitionPaymentOrder => exact transitionPaymentOrder_keeps _ _ _
  case transitionPaymentLeg => exact transitionPaymentLeg_keeps _ _ _

end

end UmojaFlowOS.Payments
