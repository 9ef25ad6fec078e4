import UmojaFlowOS.Relational.Numeric
import UmojaFlowOS.Relational.Table

/-!
# The tables of the payment workflow

Rate locks, payment orders, payment legs, policy decisions and activity events of the control
plane (`database/postgresql/0001`, `0002`), with the columns that the workflow reads or
writes, and what a transaction changes in them at its commit.
-/

namespace UmojaFlowOS.Payments

open Relational

/-- Identifiers are compared and never computed with. -/
abbrev Uuid := Nat

/-! ## Enumerations -/

/-- `operating_role` (0001:3). -/
inductive OperatingRole where
  | admin | complianceOfficer | treasuryOperator | auditor
  deriving DecidableEq

/-- `corridor_code` (0001:4). -/
inductive Corridor where
  | nigeriaNGN | kenyaKES | southAfricaZAR
  deriving DecidableEq

def Corridor.text : Corridor → String
  | nigeriaNGN => "NIGERIA_NGN"
  | kenyaKES => "KENYA_KES"
  | southAfricaZAR => "SOUTH_AFRICA_ZAR"

/-- The texts that `base_asset` and `quote_asset` may hold (0001:125-126). -/
inductive Asset where
  | ngn | kes | zar | usd | usdc | usdt
  deriving DecidableEq

/-- `rate_lock_status` (0002:9). -/
inductive LockStatus where
  | locked | expired | cancelled
  deriving DecidableEq

def LockStatus.text : LockStatus → String
  | locked => "locked"
  | expired => "expired"
  | cancelled => "cancelled"

/-- `screening_state` (0001:7). -/
inductive ScreeningState where
  | notRun | clear | potentialMatch | confirmedMatch | sourceUnavailable
  deriving DecidableEq

def ScreeningState.text : ScreeningState → String
  | notRun => "not_run"
  | clear => "clear"
  | potentialMatch => "potential_match"
  | confirmedMatch => "confirmed_match"
  | sourceUnavailable => "source_unavailable"

/-- `payment_status` (0001:6). -/
inductive PaymentStatus where
  | draft | pendingPolicyDecision | blocked | manualReview | approved | executing
  | partiallyCompleted | completed | failed | cancelled
  deriving DecidableEq

namespace PaymentStatus

def text : PaymentStatus → String
  | draft => "draft"
  | pendingPolicyDecision => "pending_policy_decision"
  | blocked => "blocked"
  | manualReview => "manual_review"
  | approved => "approved"
  | executing => "executing"
  | partiallyCompleted => "partially_completed"
  | completed => "completed"
  | failed => "failed"
  | cancelled => "cancelled"

def all : List PaymentStatus :=
  [draft, pendingPolicyDecision, blocked, manualReview, approved, executing, partiallyCompleted,
    completed, failed, cancelled]

/-- The cast of a text to the enumeration. -/
def ofText (text : String) : Option PaymentStatus := all.find? fun status => status.text = text

theorem mem_all (status : PaymentStatus) : status ∈ all := by
  cases status <;> decide

theorem text_injective {a b : PaymentStatus} (same : a.text = b.text) : a = b := by
  revert same
  cases a <;> cases b <;> decide

theorem ofText_eq_some_iff {text : String} : ofText text = some status ↔ status.text = text := by
  constructor
  · intro found
    simpa using List.find?_some found
  intro same
  cases found : ofText text with
  | none => exact absurd (List.find?_eq_none.mp found status (mem_all status)) (by simp [same])
  | some other =>
    have read : other.text = text := by simpa using List.find?_some found
    rw [text_injective (read.trans same.symm)]

@[simp] theorem ofText_text (status : PaymentStatus) : ofText status.text = some status :=
  ofText_eq_some_iff.mpr rfl

end PaymentStatus

/-- What a policy decision may be (0001:168). -/
inductive Verdict where
  | allow | manualReview | block
  deriving DecidableEq

/-! ## Rows -/

structure MarketObservation where
  id : Uuid
  baseAsset : Asset
  quoteAsset : Asset
  rate : Numeric
  observedAt : Int
  deriving DecidableEq

structure Beneficiary where
  id : Uuid
  customerID : Uuid
  screeningState : ScreeningState
  deriving DecidableEq

structure RateLock where
  id : Uuid
  marketObservationID : Uuid
  paymentOrderID : Option Uuid
  corridor : Corridor
  baseAsset : Asset
  quoteAsset : Asset
  lockedRate : Numeric
  status : LockStatus
  expiresAt : Int
  createdBy : String
  deriving DecidableEq

structure PaymentOrder where
  id : Uuid
  idempotencyKey : String
  customerID : Uuid
  beneficiaryID : Uuid
  corridor : Corridor
  sourceCurrency : Asset
  sourceAmount : Numeric
  targetCurrency : Asset
  targetAmount : Numeric
  status : PaymentStatus
  policyDecisionID : Option Uuid
  createdBy : String
  deriving DecidableEq

structure PaymentLeg where
  id : Uuid
  paymentOrderID : Uuid
  sequenceNumber : Int
  legKind : String
  counterpartyID : Uuid
  status : PaymentStatus
  deriving DecidableEq

structure PolicyDecision where
  id : Uuid
  paymentOrderID : Uuid
  decision : Verdict
  deriving DecidableEq

/-- A value in the metadata of an event. -/
inductive MetadataValue where
  | text (value : String)
  | uuid (value : Uuid)
  | number (value : Int)
  | numeric (value : Numeric)
  | time (value : Int)
  | flag (value : Bool)
  deriving DecidableEq

/-- What an event is about (`object_type`). -/
inductive ObjectType where
  | rateLock | paymentOrder | paymentLeg | regulatoryDeadline
  deriving DecidableEq

structure ActivityEvent where
  actorSubject : String
  actorRole : OperatingRole
  action : String
  objectType : ObjectType
  objectID : Uuid
  metadata : List (String × MetadataValue)
  deriving DecidableEq

/-! ## New rows -/

/-- The values of an `INSERT INTO rate_locks` (postgres.ts:969-974). -/
structure NewLock where
  marketObservationID : Uuid
  corridor : Corridor
  baseAsset : Asset
  quoteAsset : Asset
  lockedRate : Numeric
  expiresAt : Int
  createdBy : String
  deriving DecidableEq

def NewLock.row (new : NewLock) (id : Uuid) : RateLock where
  id := id
  marketObservationID := new.marketObservationID
  paymentOrderID := none
  corridor := new.corridor
  baseAsset := new.baseAsset
  quoteAsset := new.quoteAsset
  lockedRate := new.lockedRate.roundTo 12
  status := .locked
  expiresAt := new.expiresAt
  createdBy := new.createdBy

/-- The values of an `INSERT INTO payment_orders` (paymentWorkflow.ts:302-319). -/
structure NewOrder where
  idempotencyKey : String
  customerID : Uuid
  beneficiaryID : Uuid
  corridor : Corridor
  sourceCurrency : Asset
  sourceAmount : Numeric
  targetCurrency : Asset
  targetAmount : Numeric
  createdBy : String
  deriving DecidableEq

/-- Both amounts are columns `NUMERIC(30, 12)`. -/
def NewOrder.row (new : NewOrder) (id : Uuid) : PaymentOrder where
  id := id
  idempotencyKey := new.idempotencyKey
  customerID := new.customerID
  beneficiaryID := new.beneficiaryID
  corridor := new.corridor
  sourceCurrency := new.sourceCurrency
  sourceAmount := new.sourceAmount.roundTo 12
  targetCurrency := new.targetCurrency
  targetAmount := new.targetAmount.roundTo 12
  status := .draft
  policyDecisionID := none
  createdBy := new.createdBy

/-- The values of an `INSERT INTO payment_legs` (paymentWorkflow.ts:419-424). -/
structure NewLeg where
  paymentOrderID : Uuid
  sequenceNumber : Int
  legKind : String
  counterpartyID : Uuid
  deriving DecidableEq

def NewLeg.row (new : NewLeg) (id : Uuid) : PaymentLeg where
  id := id
  paymentOrderID := new.paymentOrderID
  sequenceNumber := new.sequenceNumber
  legKind := new.legKind
  counterpartyID := new.counterpartyID
  status := .draft

/-! ## Tables and what changes them -/

structure PaymentTables where
  observations : List MarketObservation := []
  beneficiaries : List Beneficiary := []
  /-- The counterparties that have a verified licence authorisation today. -/
  authorised : List Uuid := []
  locks : List RateLock := []
  orders : List PaymentOrder := []
  legs : List PaymentLeg := []
  decisions : List PolicyDecision := []
  events : List ActivityEvent := []
  deriving DecidableEq

/-- What a transaction changes at its commit. -/
inductive PaymentWrite where
  | insertLock (lock : RateLock)
  | insertOrder (order : PaymentOrder)
  | insertLeg (leg : PaymentLeg)
  | lockStatus (ids : List Uuid) (status : LockStatus)
  | bind (lock order : Uuid)
  | orderStatus (id : Uuid) (status : PaymentStatus)
  | legStatus (id : Uuid) (status : PaymentStatus)
  | event (record : ActivityEvent)

/-- What is locked by whoever updates or inserts it: a row, or a value of a unique column
that is being inserted. -/
inductive RowKey where
  | lock (id : Uuid)
  | order (id : Uuid)
  | leg (id : Uuid)
  | idempotencyKey (text : String)
  | legSlot (order : Uuid) (sequenceNumber : Int)
  deriving DecidableEq

namespace PaymentWrite

def keys : PaymentWrite → List RowKey
  | insertLock lock => [.lock lock.id]
  | insertOrder order => [.order order.id, .idempotencyKey order.idempotencyKey]
  | insertLeg leg => [.leg leg.id, .legSlot leg.paymentOrderID leg.sequenceNumber]
  | lockStatus ids _ => ids.map .lock
  | bind lock _ => [.lock lock]
  | orderStatus id _ => [.order id]
  | legStatus id _ => [.leg id]
  | event _ => []

def apply (t : PaymentTables) : PaymentWrite → PaymentTables
  | insertLock lock => { t with locks := t.locks ++ [lock] }
  | insertOrder order => { t with orders := t.orders ++ [order] }
  | insertLeg leg => { t with legs := t.legs ++ [leg] }
  | lockStatus ids status => { t with
      locks := updateWhere (fun lock => ids.contains lock.id) (fun lock => { lock with status := status })
        t.locks }
  | bind lock order => { t with
      locks := updateWhere (fun row => row.id = lock) (fun row => { row with paymentOrderID := some order })
        t.locks }
  | orderStatus id status => { t with
      orders := updateWhere (fun order => order.id = id) (fun order => { order with status := status })
        t.orders }
  | legStatus id status => { t with
      legs := updateWhere (fun leg => leg.id = id) (fun leg => { leg with status := status }) t.legs }
  | event record => { t with events := t.events ++ [record] }

end PaymentWrite

def PaymentTables.applyAll (t : PaymentTables) (writes : List PaymentWrite) : PaymentTables :=
  writes.foldl PaymentWrite.apply t

/-! ## Lifecycles -/

/-- Internal preparation states that require no provider interaction
(paymentWorkflow.ts:446-452). -/
def internalOrderTransitions : PaymentStatus → List PaymentStatus
  | .draft => [.pendingPolicyDecision, .cancelled]
  | .pendingPolicyDecision => [.blocked, .manualReview, .approved, .cancelled]
  | .manualReview => [.blocked, .approved, .cancelled]
  | .blocked => [.manualReview, .cancelled]
  | .approved => [.cancelled]
  | _ => []

/-- The table of the legs (paymentWorkflow.ts:526-532) is that of the orders. -/
def internalLegTransitions : PaymentStatus → List PaymentStatus := internalOrderTransitions

/-- The states that only a provider integration can reach (paymentWorkflow.ts:459-464). -/
def providerDependentOrderStates : List PaymentStatus :=
  [.executing, .partiallyCompleted, .completed, .failed]

theorem not_mem_providerDependent
    (allowed : new ∈ internalOrderTransitions old) : new ∉ providerDependentOrderStates := by
  revert allowed
  cases old <;> cases new <;> decide

end UmojaFlowOS.Payments
