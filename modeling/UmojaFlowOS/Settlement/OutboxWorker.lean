import UmojaFlowOS.Interaction.Concurrent
import UmojaFlowOS.Relational.Sessions
import UmojaFlowOS.Settlement.Tables

/-!
# The outbox and its workers

`ClaimOutbox` and `MarkOutboxPublished` of `PostgresSagaStore`
(`internal/settlement/postgres_saga.go`) and `OutboxWorker.PublishOnce`
(`internal/settlement/outbox_worker.go`) as programs over their SQL statements and
the publisher, and any number of workers running them over one table. `render` is
the text that the driver hands over for the payload of a row.
-/

namespace UmojaFlowOS.Settlement.Outbox

open Go Crypto Interaction Relational

/-- `OutboxEvent` (`postgres_saga.go:105-118`). -/
structure OutboxEvent where
  tenantID : String
  eventID : String
  sagaID : String
  stage : ExecutionStage
  eventType : String
  payload : String
  payloadSHA256 : String
  reconciliationRunID : String
  availableAt : Time
  leasedUntil : Option Time
  leaseOwner : String
  attemptCount : Nat

/-- `eventing.Envelope` (`internal/eventing/event.go:16-23`). -/
structure Envelope where
  eventID : String
  eventType : String
  schemaVersion : String
  occurredAt : Time
  correlationID : String
  payload : String

/-- `validateOutboxEvent` (`outbox_worker.go:62-71`). -/
def validateOutboxEvent (event : OutboxEvent) (requestedTenant : String) : Option GoError :=
  if trimSpace requestedTenant = "" ∨ event.tenantID ≠ requestedTenant ∨
      trimSpace event.eventID = "" ∨ trimSpace event.sagaID = "" ∨
      trimSpace event.eventType = "" ∨ event.payload = "" ∨ ¬ validDigest event.payloadSHA256 then
    some (.new "invalid tenant-scoped settlement outbox event")
  else if hexEncode (sha256 (bytes event.payload)) ≠ event.payloadSHA256 then
    some (.new "settlement outbox payload digest mismatch")
  else
    none

/-- The envelope that is published for an event (`outbox_worker.go:46`). -/
def envelope (event : OutboxEvent) : Envelope :=
  { eventID := event.eventID
    eventType := event.eventType
    schemaVersion := "v1"
    occurredAt := event.availableAt
    correlationID := event.sagaID
    payload := event.payload }

/-! ## The calls of a worker -/

inductive Statement where
  | beginTx (tenantID : String)
  | claim (tenantID : String) (now : Time) (limit : Int) (owner : String) (leasedUntil : Time)
  | mark (now : Time) (tenantID eventID owner : String)
  | commit

@[reducible] def Statement.Rows : Statement → Type
  | beginTx _ => Unit
  | claim _ _ _ _ _ => List OutboxEvent
  | mark _ _ _ _ => Nat
  | commit => Unit

inductive Call where
  | run (statement : Statement)
  | rollback
  | now
  | publish (topic : String) (envelope : Envelope)

@[reducible] def Call.Answer : Call → Type
  | run statement => Except GoError statement.Rows
  | rollback => Unit
  | now => Time
  | publish _ _ => Option GoError

@[reducible] def calls : Interface where
  Call := Call
  Answer := Call.Answer

abbrev Work (α : Type) := Program calls α

def ask (call : Call) : Work call.Answer := Program.ask (P := calls) call

/-- `tx` with the deferred rollback (`postgres_saga.go:135-151`). -/
def withTx {α : Type} (tenantID : String) (failed : GoError → α) (body : Work α) : Work α := do
  if trimSpace tenantID = "" then
    return failed (.new "tenant id is required")
  match ← ask (.run (.beginTx tenantID)) with
  | .error err => return failed err
  | .ok _ =>
    let result ← body
    ask .rollback
    return result

/-- The transaction of `ClaimOutbox` (`postgres_saga.go:566-605`). -/
def claimTx (tenantID owner : String) (limit lease : Int) :
    Work (List OutboxEvent × Option GoError) := do
  let now ← ask .now
  match ← ask (.run (.claim tenantID now limit owner (now + lease))) with
  | .error err => return ([], some err)
  | .ok events =>
    match ← ask (.run .commit) with
    | .error err => return ([], some err)
    | .ok _ => return (events, none)

/-- `ClaimOutbox` (`postgres_saga.go:555-606`). -/
def claimOutbox (tenantID owner : String) (limit lease : Int) :
    Work (List OutboxEvent × Option GoError) := do
  if trimSpace owner = "" ∨ limit ≤ 0 ∨ limit > 1000 ∨ lease ≤ 0 then
    return ([], some (.new "owner, bounded limit, and positive lease are required"))
  withTx tenantID (fun err => ([], some err)) (claimTx tenantID owner limit lease)

/-- The transaction of `MarkOutboxPublished` (`postgres_saga.go:617-627`). -/
def markTx (tenantID eventID owner : String) : Work (Option GoError) := do
  let now ← ask .now
  match ← ask (.run (.mark now tenantID eventID owner)) with
  | .error err => return some err
  | .ok affected =>
    if affected ≠ 1 then
      return some .sagaConflict
    match ← ask (.run .commit) with
    | .error err => return some err
    | .ok _ => return none

/-- `MarkOutboxPublished` (`postgres_saga.go:608-628`). -/
def markOutboxPublished (tenantID eventID owner : String) : Work (Option GoError) := do
  if trimSpace eventID = "" ∨ trimSpace owner = "" then
    return some (.new "event id and lease owner are required")
  withTx tenantID some (markTx tenantID eventID owner)

/-- `OutboxWorker` (`outbox_worker.go:24-31`): which of its dependencies are
non-nil, and its settings. -/
structure OutboxWorker where
  store : Bool := true
  publisher : Bool := true
  topic : String
  owner : String
  batchSize : Int
  lease : Int

/-- The loop of `PublishOnce` (`outbox_worker.go:41-59`). -/
def publishAll (w : OutboxWorker) (tenantID : String) (published : Nat) :
    List OutboxEvent → Work (Nat × Option GoError)
  | [] => return (published, none)
  | event :: events => do
    if let some err := validateOutboxEvent event tenantID then
      return (published, some err)
    if let some err ← ask (.publish w.topic (envelope event)) then
      return (published, some err)
    if let some err ← markOutboxPublished event.tenantID event.eventID w.owner then
      return (published, some err)
    publishAll w tenantID (published + 1) events

/-- `PublishOnce` (`outbox_worker.go:33-60`). -/
def publishOnce (w : OutboxWorker) (tenantID : String) : Work (Nat × Option GoError) := do
  if ¬ w.store ∨ ¬ w.publisher ∨ trimSpace w.topic = "" ∨ trimSpace w.owner = "" ∨
      w.batchSize ≤ 0 ∨ w.lease ≤ 0 then
    return (0, some (.new ("outbox store, publisher, topic, owner, batch size, and lease " ++
      "are required")))
  let (events, err) ← claimOutbox tenantID w.owner w.batchSize w.lease
  if let some err := err then
    return (0, some err)
  publishAll w tenantID 0 events

/-! ## The table -/

/-- A row of `settlement_outbox` with the columns of its publishers. -/
structure Entry where
  row : OutboxRow
  createdAt : Time
  leasedUntil : Option Time := none
  leaseOwner : String := ""
  attempts : Nat := 0
  publishedAt : Option Time := none

def rowKey (row : OutboxRow) : String × String := (row.tenantID, row.eventID)

def Entry.key (entry : Entry) : String × String := rowKey entry.row

/-- The event that `ClaimOutbox` scans from a row (`postgres_saga.go:586-597`). -/
def Entry.event (render : OutboxRow → String) (entry : Entry) : OutboxEvent :=
  { tenantID := entry.row.tenantID
    eventID := entry.row.eventID
    sagaID := entry.row.sagaID
    stage := entry.row.stage
    eventType := entry.row.eventType
    payload := render entry.row
    payloadSHA256 := entry.row.payloadSHA256
    reconciliationRunID := entry.row.reconciliationRunID
    availableAt := entry.row.availableAt
    leasedUntil := entry.leasedUntil
    leaseOwner := entry.leaseOwner
    attemptCount := entry.attempts }

/-- The columns a claim sets (`postgres_saga.go:575`). -/
def Entry.leased (owner : String) (leasedUntil : Time) (entry : Entry) : Entry :=
  { entry with leaseOwner := owner, leasedUntil := some leasedUntil, attempts := entry.attempts + 1 }

/-- The columns `MarkOutboxPublished` sets (`postgres_saga.go:618`). -/
def Entry.marked (now : Time) (entry : Entry) : Entry :=
  { entry with publishedAt := some now, leasedUntil := none, leaseOwner := "" }

/-- The `WHERE` of `MarkOutboxPublished` (`postgres_saga.go:619`). -/
def Entry.markable (key : String × String) (owner : String) (entry : Entry) : Bool :=
  entry.key = key && entry.leaseOwner = owner && entry.publishedAt.isNone

/-- The `WHERE` of the claim (`postgres_saga.go:569-570`). -/
def Entry.claimable (tenantID : String) (now : Time) (entry : Entry) : Bool :=
  entry.row.tenantID = tenantID && entry.publishedAt.isNone && entry.row.availableAt ≤ now &&
    entry.leasedUntil.all (· < now)

/-! ## Transactions -/

/-- What a statement changes once its transaction commits. -/
inductive Write where
  | lease (keys : List (String × String)) (owner : String) (now leasedUntil : Time)
  | publish (key : String × String) (owner : String) (now : Time)

def Write.locks : Write → List (String × String)
  | lease keys _ _ _ => keys
  | publish key _ _ => [key]

def Write.apply (rows : List Entry) : Write → List Entry
  | lease keys owner _ leasedUntil =>
    updateWhere (fun entry => keys.contains entry.key) (Entry.leased owner leasedUntil) rows
  | publish key owner now => updateWhere (Entry.markable key owner) (Entry.marked now) rows

/-- An open transaction. Row security shows it the rows of its tenant only. -/
structure Session where
  tenantID : String
  writes : List Write := []
  failed : Bool := false

def Session.locks (session : Session) : List (String × String) := session.writes.flatMap Write.locks

def Session.visible (session : Session) (rows : List Entry) : List Entry :=
  session.writes.foldl Write.apply rows

/-- A lease that was granted: by the commit of a claim that had read the clock at `at_`. -/
structure Lease where
  key : String × String
  owner : String
  at_ : Time
  until_ : Time

/-- The table with its open transactions, the last reading of the store's clock,
and all leases ever granted, in the order of their commits. -/
structure OutboxState where
  rows : List Entry := []
  sessions : Sessions Session := {}
  clock : Time := 0
  leases : List Lease := []

def Write.grants : Write → List Lease
  | lease keys owner now leasedUntil => keys.map fun key => ⟨key, owner, now, leasedUntil⟩
  | publish _ _ _ => []

namespace OutboxState

section
variable (s : OutboxState)

section
variable (i : Nat)

def session : Option Session :=
  s.sessions.get i

def close : OutboxState :=
  { s with sessions := s.sessions.close i }

section
variable (session : Session)

def put : OutboxState :=
  { s with sessions := s.sessions.put i session }

def lockedElsewhere (key : String × String) : Bool :=
  s.sessions.elsewhere i fun other => other.locks.contains key

/-- The rows a claim may take: `SKIP LOCKED` passes over rows locked elsewhere. -/
def eligible (tenantID : String) (now : Time) :
    List Entry :=
  (session.visible s.rows).filter fun entry => entry.claimable tenantID now &&
    entry.row.tenantID = session.tenantID && !s.lockedElsewhere i entry.key

def markable (key : String × String) (owner : String) :
    List Entry :=
  (session.visible s.rows).filter fun entry =>
    entry.markable key owner && entry.row.tenantID = session.tenantID

def commit : OutboxState :=
  { s.close i with
    rows := session.visible s.rows
    leases := s.leases ++ session.writes.flatMap Write.grants }

end

end

end

end OutboxState

/-- `ORDER BY created_at LIMIT n`: as many as the limit allows, oldest first; which
of several equally old rows is PostgreSQL's choice. -/
def picksOldest (rows : List Entry) (limit : Int) (keys : List (String × String)) : Bool :=
  keys.Nodup && keys.length = min limit.toNat rows.length &&
    keys.all (fun key => rows.any (·.key = key)) &&
    rows.all fun kept => keys.contains kept.key ||
      rows.all fun taken => !keys.contains taken.key || taken.createdAt ≤ kept.createdAt

/-- What is left open when a call is made. -/
inductive Choice where
  | ok
  | reads (time : Time)
  | picks (keys : List (String × String))
  | publishes (err : Option GoError)
  | fails (text : String)
  | loses (text : String)

section
variable (render : OutboxRow → String)

/-- One call of a worker. The clock of the store never goes back; what was applied or published
may not be acknowledged. -/
def OutboxState.exec (s : OutboxState) (i : Nat) :
    (call : Call) → Choice → Option (call.Answer × OutboxState)
  | .now, .reads time => if s.clock ≤ time then some (time, { s with clock := time }) else none
  | .publish _ _, .publishes err => some (err, s)
  | .rollback, .ok => some ((), s.close i)
  | .run (.beginTx tenantID), .ok => some (.ok (), s.put i { tenantID := tenantID })
  | .run (.claim tenantID now limit owner leasedUntil), .picks keys =>
    (s.session i).bind fun session =>
      let rows := s.eligible i session tenantID now
      if session.failed = false ∧ picksOldest rows limit keys then
        -- `RETURNING` gives the rows in no order of its own: it is that of the choice.
        some (.ok ((keys.filterMap fun key => rows.find? (·.key = key)).map fun entry =>
            (entry.leased owner leasedUntil).event render),
          s.put i { session with writes := session.writes ++ [.lease keys owner now leasedUntil] })
      else none
  | .run (.mark now tenantID eventID owner), .ok =>
    (s.session i).bind fun session =>
      let rows := s.markable session (tenantID, eventID) owner
      if session.failed = false ∧ rows.all (fun entry => !s.lockedElsewhere i entry.key) then
        some (.ok rows.length, if rows = [] then s else
          s.put i { session with
            writes := session.writes ++ [.publish (tenantID, eventID) owner now] })
      else none
  | .run .commit, .ok =>
    (s.session i).bind fun session =>
      if session.failed = false then some (.ok (), s.commit i session) else none
  | .run .commit, .loses text =>
    (s.session i).bind fun session =>
      if session.failed = false then some (.error (.database text), s.commit i session) else none
  | .run .commit, .fails text => some (.error (.database text), s.close i)
  | .run _, .fails text =>
    some (.error (.database text),
      match s.session i with
      | some session => s.put i { session with failed := true }
      | none => s)
  | _, _ => none

/-- What happens beside the calls: a new event, or a transaction rolled back. -/
inductive OutboxChange where
  | inserted (row : OutboxRow) (createdAt : Time)
  | lost (thread : Nat)

def OutboxState.happens (s : OutboxState) : OutboxChange → Option OutboxState
  | .inserted row createdAt =>
    if s.rows.all (·.key ≠ rowKey row) then
      some { s with rows := s.rows ++ [{ row := row, createdAt := createdAt }] }
    else none
  | .lost thread => some (s.close thread)

/-- What a thread runs: one pass of a worker over the events of a tenant. -/
structure Pass where
  worker : OutboxWorker
  tenantID : String

/-- Any number of workers, each making any number of passes. -/
def workers : Machine calls Pass (Nat × Option GoError) OutboxState Choice OutboxChange where
  spawn _ pass := some (publishOnce pass.worker pass.tenantID)
  exec s i _ call choice := s.exec render i call choice
  env := OutboxState.happens

end

abbrev OutboxConfig := Config calls Pass (Nat × Option GoError) OutboxState

def emptyOutbox : OutboxConfig := ⟨{}, []⟩

end UmojaFlowOS.Settlement.Outbox
