import UmojaFlowOS.Reconciliation.KafkaConsumer
import UmojaFlowOS.Relational.Sessions
import UmojaFlowOS.Settlement.Service

/-!
# Reconciliation consumers over one database and one ledger

`stablecoin_intent`, `stablecoin_event_inbox` and `stablecoin_terminal_decision`
(`database/postgresql/0058_native_stablecoin_intents_idempotency.sql`) under read
committed transactions, and TigerBeetle behind the posting service. Row level security
is left out: every statement names the tenant its transaction is bound to. So are the
columns that no statement of the consumer reads or writes.
-/

namespace UmojaFlowOS.Reconciliation

open Go Interaction Ledger Relational Settlement

/-! ## Rows -/

/-- A row of `stablecoin_intent`; the account columns are those `LoadIntent` selects. -/
structure IntentRow where
  intent : IntentRecord
  providerRef : Option String := none
  transferID : Column := .null
  terminalAt : Option Int := none

structure DecisionRow where
  tenantID : String
  intentID : String
  idempotencyKey : String
  decision : IntentStatus
  transferID : Column
  providerRef : Option String
  reconciliationRunID : String
  evidenceSHA256 : String
  decidedAt : Int

/-- A row of `stablecoin_event_inbox`; the event type is the same in all of them. -/
structure InboxRow where
  tenantID : String
  eventID : String
  correlationID : String
  payloadSHA256 : String
  reconciliationRunID : String
  receivedAt : Int
  processedAt : Option Int := none

/-- `NULLIF(text,'')`. -/
def nullifEmpty (text : String) : Option String := if text = "" then none else some text

/-- `^[A-Za-z0-9][A-Za-z0-9._:-]{7,127}$`, the `CHECK` on a run id. -/
def validRunID (runID : String) : Bool :=
  let alphanumeric (c : Char) : Bool :=
    ('A' ≤ c && c ≤ 'Z') || ('a' ≤ c && c ≤ 'z') || ('0' ≤ c && c ≤ '9')
  match runID.toList with
  | [] => false
  | first :: rest => alphanumeric first && 7 ≤ rest.length && rest.length ≤ 127 &&
      rest.all fun c => alphanumeric c || c ∈ ['.', '_', ':', '-']

namespace IntentRow

def key (row : IntentRow) : String × String := (row.intent.tenantID, row.intent.idempotencyKey)

def status (row : IntentRow) : IntentStatus := row.intent.status

/-- The `WHERE` of `updateIntent` (idem_kafka_consumer.go:335). -/
def boundTo (p : SettlementReconciledPayload) (row : IntentRow) : Bool :=
  row.key = (p.tenantID, p.idempotencyKey) && row.intent.releaseSHA = p.releaseSHA &&
    row.intent.reconciliationRunID = p.reconciliationRunID

/-- The columns `updateIntent` sets (idem_kafka_consumer.go:335). -/
def updated (status : IntentStatus) (transferID : Column) (providerRef : String) (now : Int)
    (row : IntentRow) : IntentRow where
  intent := { row.intent with status := status }
  providerRef := nullifEmpty providerRef
  transferID := transferID
  terminalAt := if status.terminal then some now else row.terminalAt

/-- The decision that `updateIntent` selects from the row (idem_kafka_consumer.go:339). -/
def decided (p : SettlementReconciledPayload) (status : IntentStatus) (transferID : Column)
    (providerRef : String) (now : Int) (row : IntentRow) : DecisionRow where
  tenantID := row.intent.tenantID
  intentID := row.intent.intentID
  idempotencyKey := row.intent.idempotencyKey
  decision := status
  transferID := transferID
  providerRef := nullifEmpty providerRef
  reconciliationRunID := row.intent.reconciliationRunID
  evidenceSHA256 := p.evidenceSHA256
  decidedAt := now

end IntentRow

def DecisionRow.key (row : DecisionRow) : String × String := (row.tenantID, row.idempotencyKey)

/-- Two decisions that a unique index keeps apart (0058:78-79). -/
def DecisionRow.clashes (first second : DecisionRow) : Bool :=
  first.tenantID = second.tenantID &&
    (first.intentID = second.intentID || first.idempotencyKey = second.idempotencyKey)

def InboxRow.key (row : InboxRow) : String × String := (row.tenantID, row.eventID)

/-- The row that `ReserveEvent` inserts (idem_kafka_consumer.go:292). -/
def InboxRow.received (p : SettlementReconciledPayload) (eventID : String) (now : Int) :
    InboxRow where
  tenantID := p.tenantID
  eventID := eventID
  correlationID := p.intentID
  payloadSHA256 := p.evidenceSHA256
  reconciliationRunID := p.reconciliationRunID
  receivedAt := now

/-- The `CHECK`s of the inbox (0058:56-59). -/
def InboxRow.valid (row : InboxRow) : Bool :=
  validLowerHex row.payloadSHA256 64 && validRunID row.reconciliationRunID

/-- The `CHECK`s of a decision (0058:70-76). -/
def DecisionRow.valid (row : DecisionRow) : Bool :=
  validLowerHex row.evidenceSHA256 64 && validRunID row.reconciliationRunID

/-- An event that is kept and not processed (idem_kafka_consumer.go:297 and 352). -/
def InboxRow.waiting (key : String × String) (row : InboxRow) : Bool :=
  row.key = key && row.processedAt.isNone

/-! ## Transactions -/

structure IntentTables where
  intents : List IntentRow := []
  decisions : List DecisionRow := []
  inbox : List InboxRow := []

/-- What a statement changes once its transaction commits. -/
inductive IntentWrite where
  | receive (row : InboxRow)
  | update (p : SettlementReconciledPayload) (status : IntentStatus) (transferID : Column)
      (providerRef : String) (now : Int)
  | decide (row : DecisionRow)
  | process (key : String × String) (now : Int)

def IntentWrite.apply (tables : IntentTables) : IntentWrite → IntentTables
  | receive row => { tables with inbox := tables.inbox ++ [row] }
  | update p status transferID providerRef now =>
    { tables with
      intents := updateWhere (IntentRow.boundTo p)
        (IntentRow.updated status transferID providerRef now) tables.intents }
  | decide row => { tables with decisions := tables.decisions ++ [row] }
  | process key now =>
    { tables with
      inbox := updateWhere (InboxRow.waiting key) (fun row => { row with processedAt := some now })
        tables.inbox }

/-- An open transaction, with the intents it has locked. After an error it takes no
further statement. -/
structure IntentSession where
  writes : List IntentWrite := []
  locks : List (String × String) := []
  failed : Bool := false

namespace IntentSession

/-- The rows the transaction sees: the committed ones and its own writes. -/
def visible (session : IntentSession) (tables : IntentTables) : IntentTables :=
  session.writes.foldl IntentWrite.apply tables

section
variable (key : String × String)

section
variable (session : IntentSession)

def holds : Bool := session.locks.contains key

def receives : Bool :=
  session.writes.any fun
    | .receive row => row.key = key
    | _ => false

def processes : Bool :=
  session.writes.any fun
    | .process processed _ => processed = key
    | _ => false

end

end

/-- The transaction has inserted a decision that keeps `row` out. -/
def decides (row : DecisionRow) (session : IntentSession) : Bool :=
  session.writes.any fun
    | .decide other => other.clashes row
    | _ => false

end IntentSession

structure Database where
  tables : IntentTables := {}
  sessions : Sessions IntentSession := {}

/-- What is left open when a call is made. -/
inductive ConsumerChoice where
  | proceeds
  | polls (answer : Except String (List KafkaRecord))
  | reads (time : Int)
  | ends (err : Option GoError)
  | policy (answer : PolicyAnswer)
  | fails (text : String)
  | loses (text : String)
  | ledger (choice : LedgerChoice)

namespace Database

variable (s : Database) (i : Nat)

def live : Option IntentSession := s.sessions.live (·.failed) i

def put (session : IntentSession) : Database := { s with sessions := s.sessions.put i session }

def write (session : IntentSession) (write : IntentWrite) : Database :=
  s.put i { session with writes := session.writes ++ [write] }

/-- The transaction of `i`, if it has one, can only be rolled back. -/
def spoil : Database :=
  { s with sessions := s.sessions.spoil (fun session => { session with failed := true }) i }

def close : Database := { s with sessions := s.sessions.close i }

def commit (session : IntentSession) : Database :=
  { tables := session.visible s.tables, sessions := s.sessions.close i }

def locked (key : String × String) : Bool := s.sessions.elsewhere i (IntentSession.holds key)

/-- The insertion of `ReserveEvent` (idem_kafka_consumer.go:292). A row that a `CHECK`
refuses is not inserted. -/
def insertInbox (row : InboxRow) : Option (Option GoError × Database) :=
  (s.live i).bind fun session =>
    if ¬ row.valid ∨ s.sessions.elsewhere i (IntentSession.receives row.key) then none
    else if (session.visible s.tables).inbox.any (·.key = row.key) then some (none, s)
    else some (none, s.write i session (.receive row))

/-- The `SELECT ... FOR UPDATE` of `LoadIntent` (idem_kafka_consumer.go:313). -/
def selectIntent (key : String × String) : Option (Except GoError IntentRecord × Database) :=
  (s.live i).bind fun session =>
    match (session.visible s.tables).intents.find? (·.key = key) with
    | none => some (.error .noRows, s)
    | some row =>
      if s.locked i key then none
      else some (.ok row.intent, s.put i { session with locks := key :: session.locks })

section
variable (inferred : IntType)

/-- The `UPDATE` of `updateIntent` (idem_kafka_consumer.go:335). -/
def updateIntent (p : SettlementReconciledPayload) (status : IntentStatus)
    (transferID : UInt64) (providerRef : String) (now : Int) :
    Option (Option GoError × Database) :=
  (s.live i).bind fun session =>
    match TransferColumn.intent.write inferred transferID with
    | .error err => some (some err, s.spoil i)
    | .ok column =>
      if (session.visible s.tables).intents.any (IntentRow.boundTo p) then
        if s.locked i (p.tenantID, p.idempotencyKey) then none
        else some (none, s.write i
          { session with locks := (p.tenantID, p.idempotencyKey) :: session.locks }
          (.update p status column providerRef now))
      else some (none, s)

/-- The insertion of `updateIntent` (idem_kafka_consumer.go:339), from the intent of the
key whatever its binding. -/
def insertDecision (p : SettlementReconciledPayload) (status : IntentStatus)
    (transferID : UInt64) (providerRef : String) (now : Int) :
    Option (Option GoError × Database) :=
  (s.live i).bind fun session =>
    match TransferColumn.decision.write inferred transferID with
    | .error err => some (some err, s.spoil i)
    | .ok column =>
      let found := (session.visible s.tables).intents.find? (·.key = (p.tenantID, p.idempotencyKey))
      match found.filter fun _ => status.terminal with
      | none => some (none, s)
      | some row =>
        let decision := row.decided p status column providerRef now
        if ¬ decision.valid ∨ s.sessions.elsewhere i (IntentSession.decides decision) then none
        else if (session.visible s.tables).decisions.any (·.clashes decision) then some (none, s)
        else some (none, s.write i session (.decide decision))

/-- The `UPDATE` of `MarkEventProcessed` (idem_kafka_consumer.go:352). -/
def updateInbox (key : String × String) (now : Int) : Option (Except GoError Nat × Database) :=
  (s.live i).bind fun session =>
    if s.sessions.elsewhere i (IntentSession.processes key) then none
    else
      let affected := (session.visible s.tables).inbox.countP (InboxRow.waiting key)
      some (.ok affected, if affected = 0 then s else s.write i session (.process key now))

/-- One call of a consumer that is not the ledger's. A statement that waits is not answered yet;
what was applied may not be acknowledged. -/
def exec : (call : ConsumerCall) → ConsumerChoice →
    Option (call.Answer × Database)
  | .pollFetches, .polls answer => some (answer, s)
  | .commitRecord _, .ends err => some (err, s)
  | .now, .reads time => some (time, s)
  | .ctxErr, .ends err => some (err, s)
  | .wait _, .ends err => some (err, s)
  | .evaluate _, .policy answer => some (answer, s)
  | .beginTx _, .proceeds => some (none, s.put i {})
  | .beginTx _, .fails text => some (some (.database text), s)
  | .insertInbox p eventID now, .proceeds => s.insertInbox i (.received p eventID now)
  | .selectReserved tenantID eventID, .proceeds => (s.live i).map fun session =>
      (.ok ((session.visible s.tables).inbox.any (InboxRow.waiting (tenantID, eventID))), s)
  | .selectIntent tenantID key, .proceeds => s.selectIntent i (tenantID, key)
  | .updateIntent p status transferID providerRef now, .proceeds =>
    s.updateIntent i inferred p status transferID providerRef now
  | .insertDecision p status transferID providerRef now, .proceeds =>
    s.insertDecision i inferred p status transferID providerRef now
  | .updateInbox now tenantID eventID, .proceeds => s.updateInbox i (tenantID, eventID) now
  | .insertInbox _ _ _, .fails text => some (some (.database text), s.spoil i)
  | .selectReserved _ _, .fails text => some (.error (.database text), s.spoil i)
  | .selectIntent _ _, .fails text => some (.error (.database text), s.spoil i)
  | .updateIntent _ _ _ _ _, .fails text => some (some (.database text), s.spoil i)
  | .insertDecision _ _ _ _ _, .fails text => some (some (.database text), s.spoil i)
  | .updateInbox _ _ _, .fails text => some (.error (.database text), s.spoil i)
  | .commit, .proceeds => (s.live i).map fun session => (none, s.commit i session)
  | .commit, .loses text =>
    (s.live i).map fun session => (some (.database text), s.commit i session)
  | .commit, .fails text => some (some (.database text), s.close i)
  | .rollback, .proceeds => some ((), s.close i)
  | _, _ => none

end

/-- A new intent, not yet terminal, under a key and an id of its own. -/
def register (intent : IntentRecord) : Option Database :=
  if intent.status.terminal ∨ s.tables.intents.any (fun row =>
      row.key = (intent.tenantID, intent.idempotencyKey) ||
        row.intent.intentID = intent.intentID) then none
  else some { s with tables := { s.tables with intents := s.tables.intents ++ [{ intent := intent }] } }

end Database

/-! ## The system -/

inductive SystemCall where
  | plain (call : ConsumerCall)
  | ledger (port : LedgerPort)

@[reducible] def SystemCall.Answer : SystemCall → Type
  | plain call => call.Answer
  | ledger port => port.Answer

@[reducible] def systemCalls : Interface where
  Call := SystemCall
  Answer := SystemCall.Answer

/-- How a call is served: `PostConfirmedTransfer` by the posting service's code. -/
def serveCall [LedgerLibrary] (service : PostingService) :
    (call : ConsumerCall) → Program systemCalls call.Answer
  | .post request => (service.postConfirmedTransfer request).link fun port =>
      Program.ask (P := systemCalls) (.ledger port)
  | call => Program.ask (P := systemCalls) (.plain call)

structure SystemState where
  database : Database := {}
  ledger : LedgerState := {}

def SystemState.exec (inferred : IntType) (s : SystemState) (i : Nat) :
    (call : SystemCall) → ConsumerChoice → Option (call.Answer × SystemState)
  | .plain call, choice => (s.database.exec i inferred call choice).map fun (answer, database) =>
      (answer, { s with database := database })
  | .ledger port, .ledger choice => (s.ledger.exec port choice).map fun (answer, ledger) =>
      (answer, { s with ledger := ledger })
  | .ledger _, _ => none

/-- What happens beside the consumers: a transaction rolled back, a new intent, transfers of
others. -/
inductive SystemEvent where
  | disconnects (thread : Nat)
  | registers (intent : IntentRecord)
  | creates (batch : List Tb.Transfer)

def SystemState.happens (s : SystemState) : SystemEvent → Option SystemState
  | .disconnects thread => some { s with database := s.database.close thread }
  | .registers intent => (s.database.register intent).map fun database =>
      { s with database := database }
  | .creates batch =>
    some { s with ledger := { s.ledger with cluster := (s.ledger.cluster.createAll "" batch).2 } }

structure ConsumerJob where
  consumer : Consumer
  rounds : Nat

abbrev SystemConfig := Config systemCalls ConsumerJob (Option GoError) SystemState

/-- Any number of consumers, started at any time; Kafka delivers anything, in any order
and any number of times. -/
def consumers [LedgerLibrary] (d : Decoders) (service : PostingService) (inferred : IntType) :
    Machine systemCalls ConsumerJob (Option GoError) SystemState ConsumerChoice SystemEvent where
  spawn _ job := some ((consume d job.consumer job.rounds).link (serveCall service))
  exec s i _ call choice := s.exec inferred i call choice
  env := SystemState.happens

end UmojaFlowOS.Reconciliation
