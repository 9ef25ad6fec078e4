import UmojaFlowOS.Attestation.Worker
import UmojaFlowOS.Go.Json
import UmojaFlowOS.Interaction.Concurrent
import UmojaFlowOS.Relational.Sessions
import UmojaFlowOS.Relational.Table

/-!
# The attestation queue and everyone who uses it

`fabric_attestation_queue` (`database/postgresql/0057_fabric_attestation_queue.sql`) under
read committed transactions, any number of callers of the queue and of workers over it,
and one clock that none of them sees going back. The columns no statement reads
(`completed_at`, `updated_at`) are left out.
-/

namespace UmojaFlowOS.Attestation

open Go Interaction Relational

/-! ## Tokens -/

/-- The bytes from position `at_` on, with what stands behind them. A hyphen may follow
every second byte but the last. -/
def uuidBytes : Nat → Nat → List Char → Option (List Nat × List Char)
  | 0, _, rest => some ([], rest)
  | count + 1, at_, high :: low :: rest => do
    let high ← hexValue high
    let low ← hexValue low
    let rest := if at_ % 2 = 1 ∧ count ≠ 0 ∧ rest.head? = some '-' then rest.tail else rest
    let (bytes, rest) ← uuidBytes count (at_ + 1) rest
    return ((16 * high + low) :: bytes, rest)
  | _ + 1, _, _ => none

/-- `text::uuid`: sixteen bytes, in braces or without. -/
def castUUID (text : String) : Option (List Nat) :=
  match text.toList with
  | '\x7b' :: inside =>
    match uuidBytes 16 0 inside with
    | some (bytes, ['\x7d']) => some bytes
    | _ => none
  | outside =>
    match uuidBytes 16 0 outside with
    | some (bytes, []) => some bytes
    | _ => none

/-! ## Rows -/

/-- A row of `fabric_attestation_queue`. -/
structure ItemRow where
  id : String
  idempotencyKey : String
  releaseSHA : String
  evidenceID : String
  evidenceURI : String
  payloadDigest : String
  endorsementScope : String
  state : ItemState := .pending
  attempts : Nat := 0
  nextAttemptAt : Time
  leaseToken : Option (List Nat) := none
  leaseUntil : Option Time := none
  attestationID : Option String := none
  lastError : Option String := none
  createdAt : Time

namespace ItemRow

/-- The row that `Enqueue` inserts (queue.go:55-61); the id and the time are the
database's. -/
def new (id : String) (now : Time) (item : QueueItem) : ItemRow where
  id := id
  idempotencyKey := item.idempotencyKey
  releaseSHA := item.releaseSHA
  evidenceID := item.evidenceID
  evidenceURI := item.evidenceURI
  payloadDigest := item.payloadDigest
  endorsementScope := item.endorsementScope
  nextAttemptAt := now
  createdAt := now

/-- The `CHECK`s on the columns that `Enqueue` fills (0057:6, 9). -/
def valid (row : ItemRow) : Bool :=
  validLowerHex row.releaseSHA 40 && validLowerHex row.payloadDigest 64

/-- The `WHERE` of `Claim` (queue.go:91-92). -/
def due (now : Time) (row : ItemRow) : Bool :=
  ((row.state = .pending || row.state = .unknown) && row.nextAttemptAt ≤ now) ||
    (row.state = .running && row.leaseUntil.any (· < now))

/-- The `ORDER BY` of `Claim` (queue.go:93). -/
def before (first second : ItemRow) : Bool :=
  first.nextAttemptAt < second.nextAttemptAt ||
    (first.nextAttemptAt = second.nextAttemptAt && first.createdAt < second.createdAt)

/-- What `Claim` scans (queue.go:87-97). -/
def scan (row : ItemRow) : QueueItem where
  id := row.id
  idempotencyKey := row.idempotencyKey
  releaseSHA := row.releaseSHA
  evidenceID := row.evidenceID
  evidenceURI := row.evidenceURI
  payloadDigest := row.payloadDigest
  endorsementScope := row.endorsementScope
  state := row.state
  attempts := row.attempts
  nextAttemptAt := row.nextAttemptAt
  lastError := row.lastError.getD ""

/-- The columns `Claim` sets (queue.go:109). -/
def claimed (attempts : Nat) (token : List Nat) (leaseUntil : Time) (row : ItemRow) : ItemRow :=
  { row with
    state := .running
    attempts := attempts
    leaseToken := some token
    leaseUntil := some leaseUntil }

/-- The `WHERE` of `MarkUnknown` and `MarkComplete` (queue.go:138, 165). -/
def heldBy (id : String) (attempts : Nat) (token : List Nat) (row : ItemRow) : Bool :=
  row.id = id && row.state = .running && row.attempts = attempts && row.leaseToken = some token

/-- The columns `MarkUnknown` sets (queue.go:137). -/
def unknown (next : Time) (reason : String) (row : ItemRow) : ItemRow :=
  { row with
    state := .unknown
    nextAttemptAt := next
    lastError := some reason
    leaseToken := none
    leaseUntil := none }

/-- The columns `MarkComplete` sets (queue.go:164). -/
def completed (attestationID : String) (row : ItemRow) : ItemRow :=
  { row with
    state := .complete
    attestationID := some attestationID
    leaseToken := none
    leaseUntil := none }

end ItemRow

/-! ## Transactions -/

/-- The `UPDATE` of `Claim` (queue.go:107-110) until its transaction commits. -/
structure ClaimWrite where
  id : String
  attempts : Nat
  token : List Nat
  leaseUntil : Time

def ClaimWrite.apply (rows : List ItemRow) (write : ClaimWrite) : List ItemRow :=
  updateWhere (fun row => row.id = write.id)
    (ItemRow.claimed write.attempts write.token write.leaseUntil) rows

/-- An open transaction of `Claim`, with the rows it has locked. After an error it takes no
further statement. -/
structure ClaimSession where
  locks : List String := []
  writes : List ClaimWrite := []
  failed : Bool := false

def ClaimSession.holds (id : String) (session : ClaimSession) : Bool := session.locks.contains id

structure QueueState where
  rows : List ItemRow := []
  sessions : Sessions ClaimSession := {}
  clock : Time := 0

/-- What is left open when a call is made; `picks` names the row a `SELECT` returns. -/
inductive QueueChoice where
  | proceeds
  | picks (id : String)
  | reads (time : Time)
  | random (read : RandomRead)
  | inserts (id : String) (now : Time)
  | insertsUnseen (id : String) (now : Time) (text : String)
  | fails (text : String)
  | loses (text : String)
  | ends (err : Option GoError)
  | evidence (answer : Except GoError (List UInt8))
  | record (answer : Except GoError Record)

namespace QueueState

variable (s : QueueState) (i : Nat)

def live : Option ClaimSession := s.sessions.live (·.failed) i

def put (session : ClaimSession) : QueueState := { s with sessions := s.sessions.put i session }

/-- The transaction of `i`, if it has one, can only be rolled back. -/
def spoil : QueueState :=
  { s with sessions := s.sessions.spoil (fun session => { session with failed := true }) i }

def close : QueueState := { s with sessions := s.sessions.close i }

def commit (session : ClaimSession) : QueueState :=
  { s with rows := session.writes.foldl ClaimWrite.apply s.rows, sessions := s.sessions.close i }

def locked (id : String) : Bool := s.sessions.elsewhere i (ClaimSession.holds id)

/-- Some transaction has locked the row: the updates of `MarkUnknown` and `MarkComplete` run
on connections of their own. -/
def held (id : String) : Bool := s.sessions.anywhere (ClaimSession.holds id)

/-- The insertion of `Enqueue`, a transaction of its own: how many rows, and the table after
it. A row that a `CHECK` refuses fails before the conflict is looked for, one whose id
exists fails after it. -/
def insertItem (item : QueueItem) (id : String) (now : Time) : Option (Nat × QueueState) :=
  if (ItemRow.new id now item).valid = false then none
  else if s.rows.any (·.idempotencyKey = item.idempotencyKey) then some (0, s)
  else if s.rows.any (·.id = id) then none
  else some (1, { s with rows := s.rows ++ [ItemRow.new id now item] })

/-- The `SELECT ... FOR UPDATE SKIP LOCKED LIMIT 1` of `Claim` (queue.go:87-97): any of the
first rows in its order, or none. -/
def selectDue (now : Time) (picked : Option String) :
    Option (Except GoError QueueItem × QueueState) :=
  (s.live i).bind fun session =>
    let free := s.rows.filter fun row => row.due now && !s.locked i row.id
    match picked with
    | none => if free.isEmpty then some (.error .noRows, s) else none
    | some id =>
      (free.find? fun row => row.id = id && free.all fun other => !other.before row).map fun row =>
        (.ok row.scan, s.put i { session with locks := row.id :: session.locks })

section
variable (lease : LeaseKey)

/-- The `UPDATE` of `Claim` (queue.go:107-110). The column `attempts` has 32 bits. -/
def claimItem (leaseUntil : Time) : Option (Option GoError × QueueState) :=
  (s.live i).bind fun session =>
    match castUUID lease.token with
    | none => some (some (.database "invalid input syntax for type uuid"), s.spoil i)
    | some token =>
      if 2 ^ 31 ≤ lease.attempts then
        some (some (.database "integer out of range"), s.spoil i)
      else if s.rows.any (·.id = lease.id) then
        if s.locked i lease.id then none
        else some (none, s.put i { session with
          locks := lease.id :: session.locks
          writes := session.writes ++ [⟨lease.id, lease.attempts, token, leaseUntil⟩] })
      else some (none, s)

/-- The update of `MarkUnknown` or of `MarkComplete`, a transaction of its own: the answer
and the table after it, unless it waits for a row. -/
def mark (change : ItemRow → ItemRow) :
    Option (Except GoError Nat × QueueState) :=
  match castUUID lease.token with
  | none => some (.error (.database "invalid input syntax for type uuid"), s)
  | some token =>
    let held := ItemRow.heldBy lease.id lease.attempts token
    if s.rows.any held && s.held lease.id then none
    else some (.ok (s.rows.countP held), { s with rows := updateWhere held change s.rows })

/-- The update of `MarkComplete` would store an attestation id a second time (0057:33-35). -/
def duplicates (attestationID : String) : Bool :=
  (castUUID lease.token).any fun token =>
    s.rows.any (ItemRow.heldBy lease.id lease.attempts token) &&
      s.rows.any (·.attestationID = some attestationID)

def markComplete (attestationID : String) :
    Option (Except GoError Nat × QueueState) :=
  if s.duplicates lease attestationID then
    some (.error (.database "duplicate key value violates unique constraint"), s)
  else s.mark lease (ItemRow.completed attestationID)

end

/-- One call. A statement that waits is not answered yet; what was applied may not be
acknowledged. -/
def exec : (call : QueueCall) → QueueChoice → Option (call.Answer × QueueState)
  | .now, .reads time => if s.clock ≤ time then some (time, { s with clock := time }) else none
  | .randomBytes, .random read => some (read, s)
  | .insertItem item, .inserts id now =>
    (s.insertItem item id now).map fun (affected, after) => (.ok affected, after)
  | .insertItem item, .insertsUnseen id now text =>
    (s.insertItem item id now).map fun (_, after) => (.error (.database text), after)
  | .insertItem _, .fails text => some (.error (.database text), s)
  | .beginTx, .proceeds => some (none, s.put i {})
  | .beginTx, .fails text => some (some (.database text), s)
  | .selectDue now, .proceeds => s.selectDue i now none
  | .selectDue now, .picks id => s.selectDue i now (some id)
  | .selectDue _, .fails text => some (.error (.database text), s.spoil i)
  | .claimItem lease leaseUntil, .proceeds => s.claimItem i lease leaseUntil
  | .claimItem _ _, .fails text => some (some (.database text), s.spoil i)
  | .commit, .proceeds => (s.live i).map fun session => (none, s.commit i session)
  | .commit, .loses text =>
    (s.live i).map fun session => (some (.database text), s.commit i session)
  | .commit, .fails text => some (some (.database text), s.close i)
  | .rollback, .proceeds => some ((), s.close i)
  | .markUnknown lease next reason, .proceeds => s.mark lease (ItemRow.unknown next reason)
  | .markUnknown lease next reason, .loses text =>
    (s.mark lease (ItemRow.unknown next reason)).map fun (_, after) =>
      (.error (.database text), after)
  | .markUnknown _ _ _, .fails text => some (.error (.database text), s)
  | .markComplete lease attestationID, .proceeds => s.markComplete lease attestationID
  | .markComplete lease attestationID, .loses text =>
    (s.markComplete lease attestationID).map fun (_, after) => (.error (.database text), after)
  | .markComplete _ _, .fails text => some (.error (.database text), s)
  | .acquire, .ends err => some (err, s)
  | .verifyManifest _, .ends err => some (err, s)
  | .loadEvidence _, .evidence answer => some (answer, s)
  | .submitAttestation _ _, .record answer => some (answer, s)
  | .evaluateAttestation _, .record answer => some (answer, s)
  | _, _ => none

end QueueState

/-! ## Everyone over one queue -/

/-- What is called. Callers may pass whatever they like; `claim` is called with the time
that was just read. -/
inductive QueueJob where
  | enqueue (q : PostgreSQLQueue) (item : QueueItem)
  | claim (q : PostgreSQLQueue)
  | markUnknown (q : PostgreSQLQueue) (item : QueueItem) (next : Time) (reason : String)
  | markComplete (q : PostgreSQLQueue) (item : QueueItem) (attestationID : String)
  | processOne (w : Worker)

inductive QueueOutcome where
  | enqueued (inserted : Bool) (err : Option GoError)
  | claimed (result : Except GoError QueueItem)
  | marked (err : Option GoError)
  | processed (done : Bool) (err : Option GoError)

def QueueJob.program : QueueJob → QueueWork QueueOutcome
  | enqueue q item => do
    let (inserted, err) ← Attestation.enqueue q item
    return .enqueued inserted err
  | claim q => do
    let now ← QueueCall.now.ask
    return .claimed (← Attestation.claim q now)
  | markUnknown q item next reason => do
    return .marked (← Attestation.markUnknown q item next reason)
  | markComplete q item attestationID => do
    return .marked (← Attestation.markComplete q item attestationID)
  | processOne w => do
    let (done, err) ← w.processOne
    return .processed done err

/-- The server rolls back the transaction of a caller that is gone. -/
structure Disconnect where
  thread : Nat

abbrev QueueThread := Thread queueCalls QueueJob QueueOutcome

abbrev QueueConfig := Config queueCalls QueueJob QueueOutcome QueueState

/-- Any number of callers, started at any time. -/
def attestors : Machine queueCalls QueueJob QueueOutcome QueueState QueueChoice Disconnect where
  spawn _ job := some job.program
  exec s i _ call choice := s.exec i call choice
  env s gone := some (s.close gone.thread)

def emptyQueue : QueueConfig := ⟨{}, []⟩

end UmojaFlowOS.Attestation
