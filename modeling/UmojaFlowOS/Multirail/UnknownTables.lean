import UmojaFlowOS.Multirail.BatchReconciler
import UmojaFlowOS.Relational.Sessions
import UmojaFlowOS.Relational.Table

/-!
# The tables of unknown states, and everyone who writes them

`provider_unknown_reconciliation` and `provider_reconciliation_decision`
(`database/postgresql/0053_provider_unknown_reconciliation.sql`, `0054`) under read
committed transactions: an insertion waits for an uncommitted one it would conflict
with, and an update waits for the transaction that has updated its row.
-/

namespace UmojaFlowOS.Multirail

open Go Interaction Relational

/-! ## Rows -/

/-- A row of `provider_unknown_reconciliation`. The lease is kept apart from the state,
since its columns are nullable. -/
structure QueueRow where
  state : UnknownState
  digest : String
  leaseUntil : Option Time := none
  leaseToken : Option String := none
  resolvedAt : Option Time := none

namespace QueueRow

def key (row : QueueRow) : String := row.state.intent.idempotencyKey

def attempts (row : QueueRow) : Nat := row.state.attempts

def resolved (row : QueueRow) : Bool := row.resolvedAt.isSome

/-- The `WHERE` of `Claim` (postgres_store.go:122-124). -/
def claimable (key : String) (now : Time) (row : QueueRow) : Bool :=
  row.key = key && !row.resolved && row.state.nextAttemptAt ≤ now && row.leaseUntil.all (· ≤ now)

/-- The columns `Claim` sets (postgres_store.go:121). -/
def claimed (leaseUntil : Time) (lease : String) (row : QueueRow) : QueueRow :=
  { row with
    state := { row.state with attempts := row.state.attempts + 1 }
    leaseUntil := some leaseUntil
    leaseToken := some lease }

/-- The state that `Claim` scans from its `RETURNING` (postgres_store.go:125-155). -/
def scanned (lease : String) (row : QueueRow) : UnknownState :=
  { row.state with leaseToken := lease, lastError := "" }

/-- The `WHERE` of `Reschedule` and of `RecordDecision` (postgres_store.go:164, 211). -/
def heldBy (key : String) (attempts : Nat) (lease : String) (row : QueueRow) : Bool :=
  row.key = key && row.attempts = attempts && row.leaseToken = some lease && !row.resolved

/-- The columns `Reschedule` sets (postgres_store.go:163). -/
def rescheduled (next : Time) (reason : String) (row : QueueRow) : QueueRow :=
  { row with
    state := { row.state with nextAttemptAt := next, lastError := reason }
    leaseUntil := none
    leaseToken := none }

/-- The columns `RecordDecision` sets (postgres_store.go:210). -/
def closed (decidedAt : Time) (row : QueueRow) : QueueRow :=
  { row with resolvedAt := some decidedAt, leaseUntil := none, leaseToken := none }

end QueueRow

/-- The `CHECK` on `observed_status` in both tables. -/
def Status.storable : Status → Bool
  | .unknown | .submitted | .pending | .settled | .failed | .held => true
  | .prepared | .other _ => false

/-- The row that `EnqueueUnknown` inserts (postgres_store.go:75-83). -/
def QueueRow.new (state : UnknownState) (digest : String) (due : Time) : QueueRow where
  state := { state with attempts := 0, nextAttemptAt := due, lastError := "", leaseToken := "" }
  digest := digest

/-- The row that `RecordDecision` inserts: `settlement_allowed` is the literal `false`, and
the lease is no column (postgres_store.go:188-197). -/
def ReconciliationResult.stored (result : ReconciliationResult) : ReconciliationResult :=
  { result with settlementAllowed := false, leaseToken := "" }

/-- Two decisions that a unique index of the table keeps apart
(lines 41, 47-53). -/
def ReconciliationResult.clashes (first second : ReconciliationResult) : Bool :=
  first.idempotencyKey = second.idempotencyKey &&
    (first.attempt = second.attempt || first.decision.terminal && second.decision.terminal)

/-! ## Transactions -/

structure Rows where
  queue : List QueueRow := []
  decisions : List ReconciliationResult := []

/-- What a statement changes once its transaction commits. -/
inductive Write where
  | enqueue (row : QueueRow)
  | decide (result : ReconciliationResult)
  | resolve (key : String) (attempt : Nat) (lease : String) (decidedAt : Time)

def Write.apply (rows : Rows) : Write → Rows
  | enqueue row => { rows with queue := rows.queue ++ [row] }
  | decide result => { rows with decisions := rows.decisions ++ [result] }
  | resolve key attempt lease decidedAt =>
    { rows with
      queue := updateWhere (QueueRow.heldBy key attempt lease) (QueueRow.closed decidedAt) rows.queue }

/-- An open transaction. After an error it takes no further statement. -/
structure Session where
  writes : List Write := []
  failed : Bool := false

/-- The rows the transaction sees: the committed ones and its own writes. -/
def Session.visible (session : Session) (rows : Rows) : Rows := session.writes.foldl Write.apply rows

def Session.enqueues (key : String) (session : Session) : Bool :=
  session.writes.any fun
    | .enqueue row => row.key = key
    | _ => false

/-- The transaction has inserted a decision that keeps `result` out. -/
def Session.decides (result : ReconciliationResult) (session : Session) : Bool :=
  session.writes.any fun
    | .decide other => other.clashes result
    | _ => false

/-- The transaction has locked the row of the key. -/
def Session.locks (key : String) (session : Session) : Bool :=
  session.writes.any fun
    | .resolve locked _ _ _ => locked = key
    | _ => false

structure Tables where
  rows : Rows := {}
  sessions : Sessions Session := {}

/-- What is left open when a call is made. -/
inductive StoreChoice where
  | proceeds
  | clock (now : Time)
  | token (lease : Except GoError String)
  | rail (submission : Submission) (err : Option RailError)
  | batch (answer : Except GoError IdemBatchResponse)
  | fails (text : String)
  | loses (text : String)

namespace Tables

variable (s : Tables) (i : Nat)

def live : Option Session := s.sessions.live (·.failed) i

def write (session : Session) (write : Write) : Tables :=
  { s with sessions := s.sessions.put i { session with writes := session.writes ++ [write] } }

/-- The transaction of `i`, if it has one, can only be rolled back. -/
def spoil : Tables :=
  { s with sessions := s.sessions.spoil (fun session => { session with failed := true }) i }

def close : Tables := { s with sessions := s.sessions.close i }

def setQueue (queue : List QueueRow) : Tables :=
  { s with rows := { s.rows with queue := queue } }

def commit (session : Session) : Tables :=
  { rows := session.visible s.rows, sessions := s.sessions.close i }

def locked (key : String) : Bool := s.sessions.elsewhere i (Session.locks key)

/-- Some transaction has locked the row: a statement outside of the caller's transaction
runs on a connection of its own. -/
def held (key : String) : Bool := s.sessions.anywhere (Session.locks key)

def row? (rows : Rows) (key : String) : Option QueueRow := rows.queue.find? (·.key = key)

def decision? (rows : Rows) (key : String) (attempt : Nat) : Option ReconciliationResult :=
  rows.decisions.find? fun d => d.idempotencyKey = key && d.attempt = attempt

/-- The `UPDATE` of `Claim`, a transaction of its own: the answer and the table after it. -/
def claimRow (key : String) (now leaseUntil : Time) (lease : String) :
    Except GoError UnknownState × Tables :=
  match s.rows.queue.find? (QueueRow.claimable key now) with
  | some row => (.ok ((row.claimed leaseUntil lease).scanned lease),
      s.setQueue
        (updateWhere (QueueRow.claimable key now) (QueueRow.claimed leaseUntil lease) s.rows.queue))
  | none => (.error .noRows, s)

/-- The `UPDATE` of `Reschedule`, a transaction of its own. -/
def rescheduleRow (key : String) (attempts : Nat) (lease : String) (next : Time) (reason : String) :
    Nat × Tables :=
  (s.rows.queue.countP (QueueRow.heldBy key attempts lease),
    s.setQueue (updateWhere (QueueRow.heldBy key attempts lease)
      (QueueRow.rescheduled next reason) s.rows.queue))

end Tables

/-- What the last query of `RecordDecision` scans: a missing decision is a `NULL` that does
not go into a string (postgres_store.go:219-226). -/
def resolutionOf (rows : Rows) (key : String) (attempt : Nat) :
    Except GoError (Option Time × String) :=
  match Tables.row? rows key, Tables.decision? rows key attempt with
  | none, _ => .error .noRows
  | some _, none => .error (.new ("sql: Scan error on column index 1, name \"evidence_digest\": " ++
      "converting NULL to string is unsupported"))
  | some row, some d => .ok (row.resolvedAt, d.evidenceDigest)

/-- One call. A statement that waits is not answered yet; what was applied may not be
acknowledged. A lease text that is no UUID fails its cast; here it may match no row instead. -/
def Tables.exec (s : Tables) (i : Nat) :
    (call : StoreCall) → StoreChoice → Option (call.Answer × Tables)
  | .now, .clock now => some (now, s)
  | .leaseToken, .token lease => some (lease, s)
  | .query _, .rail submission err => some ((submission, err), s)
  | .submit _, .rail submission err => some ((submission, err), s)
  | .reconcileBatch _ _, .batch answer => some (answer, s)
  | .beginTx, .proceeds => some (none, { s with sessions := s.sessions.put i {} })
  | .beginTx, .fails text => some (some (.database text), s)
  | .insertUnknown state digest due, .proceeds =>
    (s.live i).bind fun session =>
      if ¬ state.observedStatus.storable ∨
          s.sessions.elsewhere i (Session.enqueues state.intent.idempotencyKey) then none
      else if (Tables.row? (session.visible s.rows) state.intent.idempotencyKey).isSome then
        some (.ok 0, s)
      else some (.ok 1, s.write i session (.enqueue (.new state digest due)))
  | .selectBinding key, .proceeds =>
    (s.live i).map fun session =>
      (match Tables.row? (session.visible s.rows) key with
        | some row => .ok (row.state.intent.id, row.digest)
        | none => .error .noRows, s)
  | .claimRow key now leaseUntil lease, .proceeds =>
    if s.held key then none else some (s.claimRow key now leaseUntil lease)
  | .claimRow key now leaseUntil lease, .loses text =>
    if s.held key then none
    else some (.error (.database text), (s.claimRow key now leaseUntil lease).2)
  | .claimRow _ _ _ _, .fails text => some (.error (.database text), s)
  | .rescheduleRow key attempts lease next reason, .proceeds =>
    if s.held key then none
    else
      let (affected, after) := s.rescheduleRow key attempts lease next reason
      some (.ok affected, after)
  | .rescheduleRow key attempts lease next reason, .loses text =>
    if s.held key then none
    else some (.error (.database text), (s.rescheduleRow key attempts lease next reason).2)
  | .rescheduleRow _ _ _ _ _, .fails text => some (.error (.database text), s)
  | .insertDecision result, .proceeds =>
    (s.live i).bind fun session =>
      if ¬ result.observedStatus.storable ∨ result.attempt = 0 ∨
          s.sessions.elsewhere i (Session.decides result) then none
      else if (session.visible s.rows).decisions.any (·.clashes result) then
        some (.error .noRows, s)
      else some (.ok (), s.write i session (.decide result.stored))
  | .selectDigest key attempt, .proceeds =>
    (s.live i).map fun session =>
      (match Tables.decision? (session.visible s.rows) key attempt with
        | some d => .ok d.evidenceDigest
        | none => .error .noRows, s)
  | .resolveRow key attempt lease decidedAt, .proceeds =>
    (s.live i).bind fun session =>
      if s.locked i key then none
      else if (session.visible s.rows).queue.any (QueueRow.heldBy key attempt lease) then
        some (.ok 1, s.write i session (.resolve key attempt lease decidedAt))
      else some (.ok 0, s)
  | .selectResolution key attempt, .proceeds =>
    (s.live i).map fun session => (resolutionOf (session.visible s.rows) key attempt, s)
  | .commit, .proceeds => (s.live i).map fun session => (none, s.commit i session)
  | .commit, .loses text =>
    (s.live i).map fun session => (some (.database text), s.commit i session)
  | .commit, .fails text => some (some (.database text), s.close i)
  | .rollback, .proceeds => some ((), s.close i)
  | .insertUnknown _ _ _, .fails text => some (.error (.database text), s.spoil i)
  | .selectBinding _, .fails text => some (.error (.database text), s.spoil i)
  | .insertDecision _, .fails text => some (.error (.database text), s.spoil i)
  | .selectDigest _ _, .fails text => some (.error (.database text), s.spoil i)
  | .resolveRow _ _ _ _, .fails text => some (.error (.database text), s.spoil i)
  | .selectResolution _ _, .fails text => some (.error (.database text), s.spoil i)
  | _, _ => none

/-! ## Everyone over one database -/

/-- What is called. Callers may pass whatever they like. -/
inductive StoreJob where
  | enqueueUnknown (store : UnknownStore) (state : UnknownState)
  | claim (store : UnknownStore) (key : String) (now : Time)
  | reschedule (store : UnknownStore) (state : UnknownState) (next : Time) (reason : String)
  | recordDecision (store : UnknownStore) (result : ReconciliationResult)
  | reconcile (worker : ReconciliationWorker) (key : String) (provider : Option Rail)
  | reconcileBatch (reconciler : BatchReconciler) (runID : String) (states : List UnknownState)

inductive StoreOutcome where
  | done (err : Option GoError)
  | claimed (state : Option UnknownState) (err : Option GoError)
  | reconciled (results : List ReconciliationResult) (err : Option GoError)

def StoreJob.program [CaseTables] : StoreJob → StoreWork StoreOutcome
  | enqueueUnknown store state => do return .done (← Multirail.enqueueUnknown store state)
  | claim store key now => do
    let (state, err) ← Multirail.claim store key now
    return .claimed state err
  | reschedule store state next reason => do
    return .done (← Multirail.reschedule store state next reason)
  | recordDecision store result => do return .done (← Multirail.recordDecision store result)
  | reconcile worker key provider => do
    let (result, err) ← Multirail.reconcile worker key provider
    return .reconciled result.toList err
  | reconcileBatch reconciler runID states => do
    let (results, err) ← Multirail.reconcileBatch reconciler runID states
    return .reconciled results err

structure Disconnect where
  thread : Nat

abbrev StoreThread := Thread storeCalls StoreJob StoreOutcome

abbrev StoreConfig := Config storeCalls StoreJob StoreOutcome Tables

def reconcilers [CaseTables] :
    Machine storeCalls StoreJob StoreOutcome Tables StoreChoice Disconnect where
  spawn _ job := some job.program
  exec s i _ call choice := s.exec i call choice
  env s event := some (s.close event.thread)

def emptyStore : StoreConfig := ⟨{}, []⟩

end UmojaFlowOS.Multirail
