import UmojaFlowOS.Go.Errors
import UmojaFlowOS.Multirail.UnknownState

/-!
# The store of unknown states and its reconcilers

`PostgresUnknownStateStore` (`services/payment-engine/multirail/postgres_store.go`),
`ReconciliationWorker.Reconcile` (`multirail/unknown_reconciliation.go`) and
`FailClosedBatchReconciler.ReconcileBatch`
(`internal/provider/idem_shadow_ledger.go`) as programs over their SQL statements,
the provider's rail, the batch client and the clock.
-/

namespace UmojaFlowOS.Multirail

open Crypto Go Interaction

/-! ## The calls -/

/-- `IdemBatchItem` (idem_shadow_ledger.go:55-60), as far as it is read. -/
structure IdemBatchItem where
  transactionID : String
  status : String
  providerRef : String := ""

/-- `IdemBatchResponse` (idem_shadow_ledger.go:62-67), as far as it is read. -/
structure IdemBatchResponse where
  runID : String
  status : String
  items : List IdemBatchItem

/-- A call of the store or of a reconciler. The rail of a reconciler can submit, too. -/
inductive StoreCall where
  | now
  | leaseToken
  | beginTx
  | insertUnknown (state : UnknownState) (digest : String) (due : Time)
  | selectBinding (key : String)
  | claimRow (key : String) (now leaseUntil : Time) (lease : String)
  | rescheduleRow (key : String) (attempts : Nat) (lease : String) (next : Time) (reason : String)
  | insertDecision (result : ReconciliationResult)
  | selectDigest (key : String) (attempt : Nat)
  | resolveRow (key : String) (attempt : Nat) (lease : String) (decidedAt : Time)
  | selectResolution (key : String) (attempt : Nat)
  | commit
  | rollback
  | query (intent : Intent)
  | submit (intent : Intent)
  | reconcileBatch (runID : String) (transactionIDs : List String)

/-- A statement that returns a row answers `noRows` if there is none. -/
abbrev StoreCall.Answer : StoreCall → Type
  | now => Time
  | leaseToken => Except GoError String
  | beginTx => Option GoError
  | insertUnknown _ _ _ => Except GoError Nat
  | selectBinding _ => Except GoError (String × String)
  | claimRow _ _ _ _ => Except GoError UnknownState
  | rescheduleRow _ _ _ _ _ => Except GoError Nat
  | insertDecision _ => Except GoError Unit
  | selectDigest _ _ => Except GoError String
  | resolveRow _ _ _ _ => Except GoError Nat
  | selectResolution _ _ => Except GoError (Option Time × String)
  | commit => Option GoError
  | rollback => Unit
  | query _ => Submission × Option RailError
  | submit _ => Submission × Option RailError
  | reconcileBatch _ _ => Except GoError IdemBatchResponse

abbrev storeCalls : Interface := ⟨StoreCall, StoreCall.Answer⟩

abbrev StoreWork (α : Type) := Program storeCalls α

def askStore (call : StoreCall) : StoreWork call.Answer := Program.ask (P := storeCalls) call

def errStoreNotConfigured : GoError := .new "postgres reconciliation store is not configured"
def errIdempotencyBinding : GoError := .new "idempotency key is bound to different intent evidence"
def errLeaseLost : GoError := .new "reconciliation worker lease is no longer owned"
def errDecisionConflict : GoError :=
  .new "reconciliation decision conflicts with existing immutable evidence"
def errReconciliationUnavailable : GoError := .new "unknown provider state remains unresolved"

/-! ## The store -/

/-- `PostgresUnknownStateStore` (postgres_store.go:24-27). -/
structure UnknownStore where
  configured : Bool := true
  leaseDuration : Time := 0

section
variable (store : UnknownStore)

/-- Two minutes in nanoseconds, the default of `validate` (postgres_store.go:33-35). -/
def UnknownStore.lease : Time :=
  if store.leaseDuration ≤ 0 then 120000000000 else store.leaseDuration

/-- `statusOrUnknown` (postgres_store.go:238-243). -/
def statusOrUnknown (status : Status) : Status :=
  if status = .other "" then .unknown else status

/-- A transaction with its deferred rollback. -/
def inTx (body : StoreWork (Option GoError)) : StoreWork (Option GoError) := do
  match ← askStore .beginTx with
  | some err => return some err
  | none =>
    let err ← body
    askStore .rollback
    return err

/-- The transaction of `EnqueueUnknown` (postgres_store.go:74-97). -/
def enqueueTx (state : UnknownState) (digest : String) (due : Time) :
    StoreWork (Option GoError) := do
  match ← askStore (.insertUnknown state digest due) with
  | .error err => return some err
  | .ok affected =>
    if affected = 0 then
      match ← askStore (.selectBinding state.intent.idempotencyKey) with
      | .error err => return some err
      | .ok (existingIntent, existingDigest) =>
        if existingIntent ≠ state.intent.id ∨ existingDigest ≠ digest then
          return some errIdempotencyBinding
        else
          askStore .commit
    else
      askStore .commit

/-- `EnqueueUnknown` (postgres_store.go:56-98). -/
def enqueueUnknown (state : UnknownState) :
    StoreWork (Option GoError) := do
  if ¬ store.configured then
    return some errStoreNotConfigured
  else if state.intent.id = "" ∨ state.intent.idempotencyKey = "" ∨ state.intent.payload = [] then
    return some (.new "intent id, idempotency key, and canonical payload are required")
  else
    let now ← askStore .now
    let due := if state.nextAttemptAt = 0 then now else state.nextAttemptAt
    inTx (enqueueTx { state with observedStatus := statusOrUnknown state.observedStatus }
      (hexEncode (sha256 state.intent.payload)) due)

/-- `Claim` (postgres_store.go:103-155): the state, if the row could be claimed. -/
def claim (key : String) (now : Time) :
    StoreWork (Option UnknownState × Option GoError) := do
  if ¬ store.configured then
    return (none, some errStoreNotConfigured)
  else
    match ← askStore .leaseToken with
    | .error err => return (none, some err)
    | .ok lease =>
      match ← askStore (.claimRow key now (now + store.lease) lease) with
      | .error .noRows => return (none, none)
      | .error err => return (none, some err)
      | .ok state =>
        return (some { state with observedStatus := statusOrUnknown state.observedStatus }, none)

/-- `Reschedule` (postgres_store.go:157-173). -/
def reschedule (state : UnknownState) (next : Time) (reason : String) :
    StoreWork (Option GoError) := do
  if ¬ store.configured then
    return some errStoreNotConfigured
  else
    match ← askStore (.rescheduleRow state.intent.idempotencyKey state.attempts state.leaseToken next
        reason) with
    | .error err => return some err
    | .ok affected => return if affected ≠ 1 then some errLeaseLost else none

section
variable (result : ReconciliationResult)

/-- `RecordDecision` once the decision row is there (postgres_store.go:208-228). -/
def resolveTx : StoreWork (Option GoError) := do
  match ← askStore (.resolveRow result.idempotencyKey result.attempt result.leaseToken
      result.decidedAt) with
  | .error err => return some err
  | .ok affected =>
    if affected ≠ 1 then
      match ← askStore (.selectResolution result.idempotencyKey result.attempt) with
      | .error _ => return some errLeaseLost
      | .ok (resolvedAt, existingDigest) =>
        if resolvedAt = none ∨ existingDigest ≠ result.evidenceDigest then
          return some errLeaseLost
        else
          askStore .commit
    else
      askStore .commit

/-- The transaction of `RecordDecision` (postgres_store.go:187-228). -/
def recordTx : StoreWork (Option GoError) := do
  match ← askStore (.insertDecision result) with
  | .ok _ => resolveTx result
  | .error .noRows =>
    match ← askStore (.selectDigest result.idempotencyKey result.attempt) with
    | .error _ => return some errDecisionConflict
    | .ok existingDigest =>
      if existingDigest ≠ result.evidenceDigest then
        return some errDecisionConflict
      else
        resolveTx result
  | .error err => return some err

/-- `RecordDecision` (postgres_store.go:175-229). -/
def recordDecision :
    StoreWork (Option GoError) := do
  if ¬ store.configured then
    return some errStoreNotConfigured
  else if result.settlementAllowed ∨ result.idempotencyKey = "" ∨ result.attempt = 0 ∨
      result.evidenceDigest = "" then
    return some (.new "invalid fail-closed reconciliation decision")
  else
    inTx (recordTx result)

end

end

/-! ## The reconciliation worker -/

/-- `ReconciliationWorker` (unknown_reconciliation.go:59-64), with its store. -/
structure ReconciliationWorker where
  store : Option UnknownStore
  maxAttempts : Int := 0
  retryAfter : Time := 0

section
variable (w : ReconciliationWorker)

/-- The limit in force (unknown_reconciliation.go:85-87). -/
def ReconciliationWorker.limit : Int :=
  if w.maxAttempts ≤ 0 then 12 else w.maxAttempts

/-- Thirty minutes in nanoseconds. -/
def halfHour : Time := 1800000000000

/-- The loop of `retryDelay`: doubled once an attempt while below half an hour. -/
def doubled : Nat → Time → Time
  | 0, base => base
  | attempt + 1, base => if base < halfHour then doubled attempt (base * 2) else base

/-- `retryDelay` (unknown_reconciliation.go:126-138). -/
def ReconciliationWorker.retryDelay (attempt : Nat) : Time :=
  min (doubled attempt (if w.retryAfter ≤ 0 then 30000000000 else w.retryAfter)) halfHour

/-- What `Reconcile` concludes from a conclusive answer (unknown_reconciliation.go:109-118). -/
def conclude (observed : Submission) : ReconciliationDecision × String :=
  if observed.status.accepted then
    (.providerAccepted,
      "provider outcome independently confirmed; settlement authority remains false")
  else if observed.status.declined ∧ observed.retryableWithoutBusinessEffect then
    (.confirmedNonSubmission, "provider explicitly confirmed no business effect; " ++
      "secondary execution requires a separate authorized command")
  else
    (.quarantined, "provider result is not an accepted reconciliation state")

/-- `Reconcile` with a claimed row (unknown_reconciliation.go:88-123). -/
def reconcileClaimed (store : UnknownStore) (claimed : UnknownState) :
    StoreWork (Option ReconciliationResult × Option GoError) := do
  if (claimed.attempts : Int) ≥ w.limit then
    let now ← askStore .now
    let result := ReconciliationResult.of claimed .quarantined .unknown now
      "maximum reconciliation attempts exceeded"
    match ← recordDecision store result with
    | some err => return (none, some err)
    | none => return (some result, some errReconciliationUnavailable)
  else
    let (observed, queryErr) ← askStore (.query claimed.intent)
    if queryErr.isSome ∨ observed.status = .unknown then
      let now ← askStore .now
      let reason := if queryErr.isSome then "provider query failed; fallback remains prohibited"
        else "provider query did not produce a conclusive outcome"
      match ← reschedule store claimed (now + w.retryDelay claimed.attempts) reason with
      | some err => return (none, some err)
      | none =>
        let decidedAt ← askStore .now
        return (some (.of claimed .awaitingEvidence .unknown decidedAt reason),
          some errReconciliationUnavailable)
    else
      let now ← askStore .now
      let result := ReconciliationResult.of claimed (conclude observed).1 observed.status now
        (conclude observed).2
      match ← recordDecision store result with
      | some err => return (none, some err)
      | none => return (some result, none)

/-- `Reconcile` (unknown_reconciliation.go:70-124). No result stands for the zero one. -/
def reconcile (key : String) (provider : Option Rail) :
    StoreWork (Option ReconciliationResult × Option GoError) := do
  match w.store with
  | none => return (none, some (.new "store, provider, and idempotency key are required"))
  | some store =>
    if provider = none ∨ key = "" then
      return (none, some (.new "store, provider, and idempotency key are required"))
    else
      let now ← askStore .now
      let (claimed, err) ← claim store key now
      match err, claimed with
      | some err, _ => return (none, some err)
      | none, none => return (none, some errReconciliationUnavailable)
      | none, some claimed => reconcileClaimed w store claimed

end

end UmojaFlowOS.Multirail
