import UmojaFlowOS.Interaction.Program
import UmojaFlowOS.Payments.Tables
import UmojaFlowOS.TypeScript.Text

/-!
# The payment workflow

The functions of `apps/control-plane/server/paymentWorkflow.ts` that change rate locks, payment
orders and payment legs, and those of `postgres.ts` that create, cancel and expire rate
locks. Each runs one transaction: an error anywhere in it is followed by `ROLLBACK` and
thrown again.
-/

namespace UmojaFlowOS.Payments

open Interaction Relational TypeScript

/-! ## Statements -/

/-- An existing order, and a lock that is bound to it (paymentWorkflow.ts:333-335). -/
structure Replay where
  id : Uuid
  status : PaymentStatus
  targetAmount : Numeric
  boundLockID : Option Uuid

inductive Statement where
  | begin
  | commit
  | selectObservation (id : Uuid)
  | insertLock (new : NewLock)
  /-- `SELECT ... FROM rate_locks WHERE id = $1 FOR UPDATE`. -/
  | selectLock (id : Uuid)
  /-- `SELECT payment_order_id FROM rate_locks WHERE id = $1`, which locks nothing. -/
  | selectBinding (id : Uuid)
  | cancelLock (id : Uuid)
  /-- `UPDATE rate_locks SET status = 'expired' WHERE status = 'locked' AND expires_at <= ...`,
  by the time that is given or by `now()`. -/
  | expireLocks (time : Option Int)
  | selectBeneficiary (id : Uuid)
  /-- `SELECT round($1::numeric * $2::numeric, 8)`. -/
  | derive (source rate : Numeric)
  | insertOrder (new : NewOrder)
  | selectReplay (idempotencyKey : String)
  | bindLock (order lock : Uuid)
  /-- `SELECT ... FROM payment_orders WHERE id = $1 FOR UPDATE`. -/
  | selectOrder (id : Uuid)
  | countAuthorised (counterpartyID : Uuid)
  | insertLeg (new : NewLeg)
  | updateOrder (status : String) (id : Uuid)
  /-- The leg with its order, `FOR UPDATE OF l` (paymentWorkflow.ts:569-575), starts: the
  orders are read as they are committed now. -/
  | startSelectLeg (id : Uuid)
  /-- The leg is locked and comes back, with its order as it was read. -/
  | selectLeg (id : Uuid)
  | updateLeg (status : String) (id : Uuid)
  | recordEvent (event : ActivityEvent)
  deriving DecidableEq

abbrev Statement.Rows : Statement → Type
  | begin => Unit
  | commit => Unit
  | selectObservation _ => Option MarketObservation
  | insertLock _ => Option Uuid
  | selectLock _ => Option RateLock
  | selectBinding _ => Option (Option Uuid)
  | cancelLock _ => Option Uuid
  | expireLocks _ => List RateLock
  | selectBeneficiary _ => Option Beneficiary
  | derive _ _ => Numeric
  | insertOrder _ => Option Uuid
  | selectReplay _ => Option Replay
  | bindLock _ _ => Nat
  | selectOrder _ => Option PaymentOrder
  | countAuthorised _ => Nat
  | insertLeg _ => Option Uuid
  | updateOrder _ _ => Option Uuid
  | startSelectLeg _ => Unit
  | selectLeg _ => Option (PaymentLeg × PaymentStatus)
  | updateLeg _ _ => Option Uuid
  | recordEvent _ => Unit

/-- A statement, a reading of the clock, a random identifier, or the `ROLLBACK` whose own
failure is swallowed. Errors are known by their messages. -/
inductive PaymentCall where
  | run (statement : Statement)
  | now
  | randomUUID
  | rollback
  deriving DecidableEq

abbrev PaymentCall.Answer : PaymentCall → Type
  | run statement => Except String statement.Rows
  | now => Int
  | randomUUID => Uuid
  | rollback => Unit

abbrev paymentCalls : Interface := ⟨PaymentCall, PaymentCall.Answer⟩

abbrev PaymentWork := Program paymentCalls

abbrev PaymentCode := ExceptT String PaymentWork

def PaymentCall.ask (call : PaymentCall) : PaymentWork call.Answer :=
  Program.ask (P := paymentCalls) call

def query (statement : Statement) : PaymentCode statement.Rows := ExceptT.mk (PaymentCall.run statement).ask

def now : PaymentCode Int := ExceptT.lift PaymentCall.now.ask

def randomUUID : PaymentCode Uuid := ExceptT.lift PaymentCall.randomUUID.ask

/-- `BEGIN`, the statements up to `COMMIT`, and `ROLLBACK` in the `catch`. Taking the
connection from the pool counts as part of `BEGIN`. -/
def transaction {α : Type} (body : PaymentCode α) : PaymentCode α := ExceptT.mk do
  match ← (query .begin >>= fun _ => body).run with
  | .ok value => return .ok value
  | .error text => do
    PaymentCall.rollback.ask
    return .error text

/-! ## Actors and results -/

structure Actor where
  openID : String
  role : OperatingRole
  deriving DecidableEq

structure DraftedOrder where
  id : Uuid
  status : PaymentStatus
  targetAmount : Numeric
  rateLockID : Uuid
  lockedRate : Numeric
  idempotentReplay : Bool
  deriving DecidableEq

structure OrderInput where
  idempotencyKey : String
  customerID : Uuid
  beneficiaryID : Uuid
  rateLockID : Uuid
  sourceAmount : String
  deriving DecidableEq

structure LegInput where
  paymentOrderID : Uuid
  /-- A number, which need not be an integer. -/
  sequenceNumber : Rat
  legKind : String
  counterpartyID : Uuid
  deriving DecidableEq

/-- A row that was written, with its status. -/
structure Written (σ : Type) where
  id : Uuid
  status : σ
  deriving DecidableEq

section
variable (actor : Actor)

/-- The event of `recordActivity` (postgres.ts:911-916). -/
def activity (action : String) (objectType : ObjectType) (objectID : Uuid)
    (metadata : List (String × MetadataValue)) : ActivityEvent :=
  ⟨actor.openID, actor.role, action, objectType, objectID, metadata⟩

/-- The event of `recordEvent` (paymentWorkflow.ts:56-68), which names its source. -/
def workflowEvent (action : String) (objectType : ObjectType) (objectID : Uuid)
    (metadata : List (String × MetadataValue)) : ActivityEvent :=
  activity actor action objectType objectID (metadata ++ [("source", .text "postgres-control-plane")])

/-- `reason.trim().length < 10`. -/
def unsubstantial (reason : String) : Bool := utf16Length (trim reason) < 10

/-! ## Rate locks -/

/-- `createPostgresRateLock` (postgres.ts:957-981). -/
def createRateLock (marketObservationID : Uuid) (corridor : Corridor)
    (expiresAt : Int) : PaymentCode RateLock := transaction do
  match ← query (.selectObservation marketObservationID) with
  | none => throw "rate lock requires an existing canonical market observation"
  | some source => do
    let time ← now
    if expiresAt ≤ time then throw "rate lock expiry must be in the future"
    else do
      let new : NewLock := ⟨source.id, corridor, source.baseAsset, source.quoteAsset, source.rate,
        expiresAt, actor.openID⟩
      match ← query (.insertLock new) with
      | none => throw "rate lock insert did not return a record"
      | some id => do
        query (.recordEvent (activity actor "rate_lock.created" .rateLock id
          [("marketObservationId", .uuid source.id), ("corridor", .text corridor.text),
            ("lockedRate", .numeric (new.row id).lockedRate),
            ("derivedFromObservationAt", .time source.observedAt), ("executionEnabled", .flag false)]))
        query .commit
        return new.row id

/-- `cancelPostgresRateLock` as the router exposes it (postgres.ts:983-998,
routers.ts:316). -/
def cancelRateLockRouted (rateLockID : Uuid) : PaymentCode (Written LockStatus) :=
  transaction do
    match ← query (.selectLock rateLockID) with
    | none => throw "rate lock was not found"
    | some existing =>
      if existing.status ≠ .locked then throw "only a locked rate lock can be cancelled"
      else do
        match ← query (.cancelLock rateLockID) with
        | none => throw "rate lock cancellation did not return a record"
        | some id => do
          query (.recordEvent (activity actor "rate_lock.cancelled" .rateLock id
            [("from", .text existing.status.text), ("to", .text "cancelled")]))
          query .commit
          return ⟨id, .cancelled⟩

/-- What `evaluatePostgresRegulatoryDeadlines` (postgres.ts:1451-1483) does with rate locks. -/
def evaluateRegulatoryDeadlines (time : Int) : PaymentCode Nat := transaction do
  let expired ← query (.expireLocks (some time))
  let id ← randomUUID
  query (.recordEvent (activity actor "regulatory_deadline.evaluated" .regulatoryDeadline id
    [("expiredRateLocks", .number expired.length), ("evaluatedAt", .time time)]))
  query .commit
  return expired.length

/-- The event of one expired lock (paymentWorkflow.ts:87-92). -/
def expiredEvent (row : RateLock) : ActivityEvent :=
  workflowEvent actor "rate_lock.expired" .rateLock row.id
    [("from", .text "locked"), ("to", .text "expired"), ("expiresAt", .time row.expiresAt),
      ("reason", .text "expiry_elapsed")]

def recordAll : List ActivityEvent → PaymentCode Unit
  | [] => pure ()
  | event :: events => do
    query (.recordEvent event)
    recordAll events

/-- `expirePostgresRateLocks` (paymentWorkflow.ts:76-102). -/
def expireRateLocks : PaymentCode (List Uuid) := transaction do
  let rows ← query (.expireLocks none)
  recordAll (rows.map (expiredEvent actor))
  query .commit
  return rows.map (·.id)

/-- `cancelPostgresRateLock` of the workflow (paymentWorkflow.ts:112-167). -/
def cancelRateLock (rateLockID : Uuid) (reason : String) :
    PaymentCode (Written LockStatus) :=
  if unsubstantial reason then throw "A substantive cancellation reason is required"
  else transaction do
    match ← query (.selectLock rateLockID) with
    | none => throw "Rate lock was not found"
    | some lock =>
      if lock.status ≠ .locked then
        throw s!"Only a live rate lock may be cancelled; this lock is {lock.status.text}"
      else do
        let consuming ← query (.selectBinding rateLockID)
        if (consuming.getD none).isSome then
          throw "Rate lock is bound to a payment order and may not be cancelled"
        else do
          match ← query (.cancelLock rateLockID) with
          | none => throw "Rate lock update did not return a record"
          | some id => do
            query (.recordEvent (workflowEvent actor "rate_lock.cancelled" .rateLock id
              [("from", .text "locked"), ("to", .text "cancelled"),
                ("expiresAt", .time lock.expiresAt), ("reason", .text reason)]))
            query .commit
            return ⟨id, .cancelled⟩

/-! ## Payment orders -/

/-- The two events of a drafted order (paymentWorkflow.ts:347-354, 365-368). -/
def draftedEvent (lock : RateLock) (new : NewOrder) (sourceAmount : String)
    (id : Uuid) : ActivityEvent :=
  workflowEvent actor "payment_order.drafted" .paymentOrder id
    [("rateLockId", .uuid lock.id), ("lockedRate", .numeric lock.lockedRate),
      ("corridor", .text lock.corridor.text), ("sourceAmount", .text sourceAmount),
      ("targetAmount", .numeric new.targetAmount),
      ("derivation", .text "target_amount = source_amount * locked_rate")]

def consumedEvent (lock : RateLock) (order : Uuid) : ActivityEvent :=
  workflowEvent actor "rate_lock.consumed" .rateLock lock.id
    [("paymentOrderId", .uuid order), ("lockedRate", .numeric lock.lockedRate)]

section
variable (input : OrderInput)

/-- The branch without a new row (paymentWorkflow.ts:323-345). -/
def replayOrder (lock : RateLock) : PaymentCode DraftedOrder := do
  match ← query (.selectReplay input.idempotencyKey) with
  | none => throw "Payment order insert did not return a record"
  | some replay =>
    if replay.boundLockID.any (· ≠ lock.id) then
      throw "Idempotency key already refers to an order backed by a different rate lock"
    else do
      query .commit
      return ⟨replay.id, replay.status, replay.targetAmount, lock.id, lock.lockedRate, true⟩

/-- What follows a new row (paymentWorkflow.ts:347-371). -/
def bindOrder (lock : RateLock) (new : NewOrder) (id : Uuid) :
    PaymentCode DraftedOrder := do
  query (.recordEvent (draftedEvent actor lock new input.sourceAmount id))
  let rowCount ← query (.bindLock id lock.id)
  if rowCount ≠ 1 then
    throw "Rate lock consumption could not be recorded; payment drafting fails closed"
  else do
    query (.recordEvent (consumedEvent actor lock id))
    query .commit
    return ⟨id, .draft, (new.row id).targetAmount, lock.id, lock.lockedRate, false⟩

def newOrder (lock : RateLock) (source target : Numeric) :
    NewOrder where
  idempotencyKey := input.idempotencyKey
  customerID := input.customerID
  beneficiaryID := input.beneficiaryID
  corridor := lock.corridor
  sourceCurrency := lock.baseAsset
  sourceAmount := source
  targetCurrency := lock.quoteAsset
  targetAmount := target
  createdBy := actor.openID

/-- The checks of the beneficiary and the amount, and the row (paymentWorkflow.ts:286-322). -/
def draftOrder (source : Numeric) (lock : RateLock) :
    PaymentCode DraftedOrder := do
  match ← query (.selectBeneficiary input.beneficiaryID) with
  | none => throw "A canonical beneficiary record is required"
  | some target =>
    if target.customerID ≠ input.customerID then
      throw "Beneficiary does not belong to the specified customer"
    else if target.screeningState ≠ .clear then
      throw s!"Beneficiary screening must be clear before drafting a payment order; current state is {target.screeningState.text}"
    else do
      let targetAmount ← query (.derive source lock.lockedRate)
      -- `targetAmount === "0.00000000"`
      if targetAmount = ⟨0, 8⟩ then throw "Locked rate is unusable; payment drafting fails closed"
      else do
        let new := newOrder actor input lock source targetAmount
        match ← query (.insertOrder new) with
        | none => replayOrder input lock
        | some id => bindOrder actor input lock new id

/-- `createPostgresPaymentOrder` (paymentWorkflow.ts:242-378). -/
def createPaymentOrder : PaymentCode DraftedOrder :=
  match readDecimal 12 input.sourceAmount with
  | none => throw "A positive source amount is required"
  | some source =>
    if input.sourceAmount = "0" then throw "A positive source amount is required"
    else transaction do
      match ← query (.selectLock input.rateLockID) with
      | none => throw "A canonical rate lock is required before drafting a payment order"
      | some lock =>
        if lock.status ≠ .locked then throw "Rate lock is not live; payment drafting fails closed"
        else do
          let time ← now
          if lock.expiresAt ≤ time then
            throw "Rate lock has expired; payment drafting fails closed"
          else if lock.paymentOrderID.isSome then
            throw "Rate lock has already been consumed by a payment order; reuse fails closed"
          else draftOrder actor input source lock

end

/-! ## Transitions -/

/-- `providerDependentOrderStates.has(status)`. -/
def providerDependent (status : String) : Bool :=
  providerDependentOrderStates.any fun state => state.text = status

/-- `transitions?.includes(status)`. -/
def includes (transitions : List PaymentStatus) (status : String) : Bool :=
  transitions.any fun state => state.text = status

/-- The event of a moved order (paymentWorkflow.ts:505-509). -/
def orderEvent (id : Uuid) (old : PaymentStatus) (status reason : String) :
    ActivityEvent :=
  workflowEvent actor ("payment_order." ++ status) .paymentOrder id
    [("from", .text old.text), ("to", .text status), ("reason", .text reason)]

/-- `transitionPostgresPaymentOrder` (paymentWorkflow.ts:466-519). -/
def transitionPaymentOrder (paymentOrderID : Uuid) (status reason : String) :
    PaymentCode (Written String) :=
  if providerDependent status then
    throw "Execution states require a verified provider finality reference from an authorised provider integration; this transition fails closed"
  else if unsubstantial reason then throw "A substantive transition reason is required"
  else transaction do
    match ← query (.selectOrder paymentOrderID) with
    | none => throw "Payment order was not found"
    | some order =>
      if ¬ includes (internalOrderTransitions order.status) status then
        throw "invalid payment order lifecycle transition"
      else if status = "approved" ∧ order.policyDecisionID = none then
        throw "A recorded policy decision is required before an order may be approved"
      else do
        match ← query (.updateOrder status paymentOrderID) with
        | none => throw "Payment order update did not return a record"
        | some id => do
          query (.recordEvent (orderEvent actor id order.status status reason))
          query .commit
          return ⟨id, status⟩

/-! ## Payment legs -/

/-- The event of a new leg (paymentWorkflow.ts:428-433). -/
def legDraftedEvent (new : NewLeg) (id : Uuid) : ActivityEvent :=
  workflowEvent actor "payment_leg.drafted" .paymentLeg id
    [("paymentOrderId", .uuid new.paymentOrderID), ("sequenceNumber", .number new.sequenceNumber),
      ("legKind", .text new.legKind), ("counterpartyId", .uuid new.counterpartyID)]

/-- `createPostgresPaymentLeg` (paymentWorkflow.ts:384-443). -/
def createPaymentLeg (input : LegInput) : PaymentCode PaymentLeg :=
  if ¬ input.sequenceNumber.isInt ∨ input.sequenceNumber < 1 then
    throw "Leg sequence number must be a positive integer"
  else transaction do
    match ← query (.selectOrder input.paymentOrderID) with
    | none => throw "A canonical payment order is required before adding a leg"
    | some order =>
      if order.status ≠ .draft then throw "Legs may only be added while the order is in draft"
      else do
        let count ← query (.countAuthorised input.counterpartyID)
        if count = 0 then
          throw "Counterparty has no currently verified licence authorisation; leg creation fails closed"
        else do
          let new : NewLeg := ⟨input.paymentOrderID, input.sequenceNumber.num, input.legKind,
            input.counterpartyID⟩
          match ← query (.insertLeg new) with
          | none => throw "Payment leg insert did not return a record"
          | some id => do
            query (.recordEvent (legDraftedEvent actor new id))
            query .commit
            return new.row id

/-- The event of a moved leg (paymentWorkflow.ts:594-600). -/
def legEvent (id : Uuid) (leg : PaymentLeg) (orderStatus : PaymentStatus)
    (status reason : String) : ActivityEvent :=
  workflowEvent actor ("payment_leg." ++ status) .paymentLeg id
    [("from", .text leg.status.text), ("to", .text status), ("paymentOrderId", .uuid leg.paymentOrderID),
      ("orderStatus", .text orderStatus.text), ("reason", .text reason)]

/-- `transitionPostgresPaymentLeg` (paymentWorkflow.ts:547-610). -/
def transitionPaymentLeg (paymentLegID : Uuid) (status reason : String) :
    PaymentCode (Written String) :=
  if providerDependent status then
    throw "Leg execution states require a verified provider instruction or finality reference from an authorised provider integration; this transition fails closed"
  else if unsubstantial reason then throw "A substantive transition reason is required"
  else transaction do
    query (.startSelectLeg paymentLegID)
    match ← query (.selectLeg paymentLegID) with
    | none => throw "Payment leg was not found"
    | some (leg, orderStatus) =>
      if ¬ includes (internalLegTransitions leg.status) status then
        throw "invalid payment leg lifecycle transition"
      else if status = "approved" ∧ orderStatus ≠ .approved then
        throw "A leg may only be approved after its payment order is approved"
      else do
        match ← query (.updateLeg status paymentLegID) with
        | none => throw "Payment leg update did not return a record"
        | some id => do
          query (.recordEvent (legEvent actor id leg orderStatus status reason))
          query .commit
          return ⟨id, status⟩

end

/-! ## Calls -/

inductive PaymentTask where
  | createRateLock (marketObservationID : Uuid) (corridor : Corridor) (expiresAt : Int)
  | expireRateLocks
  | evaluateRegulatoryDeadlines (time : Int)
  | cancelRateLock (rateLockID : Uuid) (reason : String)
  | cancelRateLockRouted (rateLockID : Uuid)
  | createPaymentOrder (input : OrderInput)
  | createPaymentLeg (input : LegInput)
  | transitionPaymentOrder (paymentOrderID : Uuid) (status reason : String)
  | transitionPaymentLeg (paymentLegID : Uuid) (status reason : String)
  deriving DecidableEq

/-- A call by an actor. -/
structure PaymentJob where
  actor : Actor
  task : PaymentTask
  deriving DecidableEq

inductive PaymentOutcome where
  | lock (row : RateLock)
  | expired (ids : List Uuid)
  | evaluated (expired : Nat)
  | cancelled (lock : Written LockStatus)
  | drafted (order : DraftedOrder)
  | leg (row : PaymentLeg)
  | moved (row : Written String)
  deriving DecidableEq

def PaymentJob.code (job : PaymentJob) : PaymentCode PaymentOutcome :=
  match job.task with
  | .createRateLock observation corridor expiresAt =>
    .lock <$> createRateLock job.actor observation corridor expiresAt
  | .expireRateLocks => .expired <$> expireRateLocks job.actor
  | .evaluateRegulatoryDeadlines time => .evaluated <$> evaluateRegulatoryDeadlines job.actor time
  | .cancelRateLock rateLockID reason => .cancelled <$> cancelRateLock job.actor rateLockID reason
  | .cancelRateLockRouted rateLockID => .cancelled <$> cancelRateLockRouted job.actor rateLockID
  | .createPaymentOrder input => .drafted <$> createPaymentOrder job.actor input
  | .createPaymentLeg input => .leg <$> createPaymentLeg job.actor input
  | .transitionPaymentOrder id status reason =>
    .moved <$> transitionPaymentOrder job.actor id status reason
  | .transitionPaymentLeg id status reason =>
    .moved <$> transitionPaymentLeg job.actor id status reason

end UmojaFlowOS.Payments
