import UmojaFlowOS.Fencing.Fence
import UmojaFlowOS.Interaction.Concurrent
import UmojaFlowOS.Relational.Sessions
import UmojaFlowOS.Relational.Table

/-!
# The fence tables and everyone who uses them

`settlement_fence_commands` and `settlement_fence_state` (`database/postgresql/0059`, `0060`)
under read committed transactions, with the sequence of versions and the advisory locks,
and any number of replicas over them: direct calls of the store, commands that are applied,
guarded postings and look-ups. A context may be cancelled at any moment, upon which
`database/sql` rolls the transaction that was begun with it back.
-/

namespace UmojaFlowOS.Fencing

open Go Interaction Ledger Relational

/-! ## Tables -/

structure FenceTables where
  commands : List CommandRow := []
  states : List StateRow := []
  /-- The last value of `settlement_fence_command_version_seq`. -/
  sequence : Nat := 0

namespace FenceTables

def stateOf (t : FenceTables) (environment : String) : Option StateRow :=
  t.states.find? (·.environment = environment)

/-- The durable state of an environment; without a row it is fenced (postgres.go:217-219). -/
def fenced (t : FenceTables) (environment : String) : Bool :=
  ((t.stateOf environment).map (·.fenced)).getD true

def command (t : FenceTables) (commandID : String) : Option CommandRow :=
  t.commands.find? (·.commandID = commandID)

/-- `ON CONFLICT (environment) DO UPDATE` (postgres.go:125-134). -/
def upsert (row : StateRow) (states : List StateRow) : List StateRow :=
  if states.any (·.environment = row.environment) then
    updateWhere (fun old => old.environment = row.environment) (fun _ => row) states
  else states ++ [row]

end FenceTables

/-- A character of an environment's name (0059:10, 0060:5). -/
def environmentChar (c : Char) : Bool := ('a' ≤ c && c ≤ 'z') || ('0' ≤ c && c ≤ '9')

/-- `environment ~ '^[a-z0-9][a-z0-9-]{0,31}$'`. -/
def validEnvironment (environment : String) : Bool :=
  environment.toList.head?.any environmentChar && environment.length ≤ 32 &&
    environment.toList.all fun c => environmentChar c || c = '-'

def noNul (text : String) : Bool := !text.toList.contains '\x00'

/-- What the `CHECK`s on `settlement_fence_commands` (0059:5-23) ask of a command. -/
def FenceCommand.storable (instant : Stamp → Time) (c : FenceCommand) : Bool :=
  ([c.commandID, c.reason, c.environment, c.nonce, c.signer] ++ c.sourceAlerts).all noNul &&
    c.action.supported && 1 ≤ c.reason.length && c.reason.length ≤ 512 &&
    validEnvironment c.environment && c.sourceAlerts ≠ [] &&
    decide (instant c.issuedAt < instant c.expiresAt) &&
    8 ≤ c.commandID.length && c.commandID.length ≤ 128 &&
    16 ≤ c.nonce.length && c.nonce.length ≤ 128

/-! ## Transactions -/

/-- An open transaction: its locks and what it writes at its commit. After an error it takes no
further statement. -/
structure FenceSession where
  keys : List UInt64 := []
  commandLocks : List String := []
  stateLocks : List String := []
  commands : List CommandRow := []
  states : List StateRow := []
  failed : Bool := false

namespace FenceSession

def holdsKey (key : UInt64) (session : FenceSession) : Bool := session.keys.contains key

def holdsCommand (commandID : String) (session : FenceSession) : Bool :=
  session.commandLocks.contains commandID

def holdsState (environment : String) (session : FenceSession) : Bool :=
  session.stateLocks.contains environment

def inserts (commandID : String) (session : FenceSession) : Bool :=
  session.commands.any (·.commandID = commandID)

end FenceSession

/-- What of a replica's fence changes (fence.go:66-76). -/
structure LocalFence where
  fenced : Bool := true
  version : Nat := 0
  reason : String := "startup fail-closed fence"
  seen : List String := []

/-- The end of `ApplyContext` (fence.go:220-230). -/
def LocalFence.apply (local_ : LocalFence) (c : FenceCommand) : LocalFence :=
  if local_.seen.contains c.commandID then local_
  else
    { fenced := c.action = .fence
      version := local_.version + 1
      reason := c.reason
      seen := c.commandID :: local_.seen }

/-- `setLocalState` (fence.go:125-131). -/
def LocalFence.set (local_ : LocalFence) (state : FenceState) : LocalFence :=
  { local_ with fenced := state.fenced, version := state.version, reason := state.reason }

structure FenceStore where
  tables : FenceTables := {}
  sessions : Sessions FenceSession := {}
  locals : Nat → LocalFence := fun _ => {}
  /-- The callers whose context is cancelled. -/
  cancelled : List Nat := []

/-- What is left open when a call is made. -/
inductive FenceChoice where
  | proceeds
  | fails (text : String)
  | loses (text : String)
  | ends (err : Option GoError)
  | reads (time : Int)
  | creates (answer : Except GoError (List Tb.TransferStatus))
  | finds (answer : Except GoError (List Tb.Transfer))

/-- What PostgreSQL brings along: the hash of an environment's name that is locked, and the
instants of timestamps. -/
structure FenceDatabase where
  lockKey : String → UInt64
  instant : Stamp → Time

namespace FenceStore

variable (db : FenceDatabase) (s : FenceStore) (i : Nat)

def live : Option FenceSession := s.sessions.live (·.failed) i

def put (session : FenceSession) : FenceStore := { s with sessions := s.sessions.put i session }

/-- A statement that fails aborts the transaction of `i`: its locks and writes are given up at
once. -/
def spoil : FenceStore :=
  { s with sessions := s.sessions.spoil (fun _ => { failed := true }) i }

def close : FenceStore := { s with sessions := s.sessions.close i }

def commit (session : FenceSession) : FenceStore :=
  { s with
    tables := { s.tables with
      commands := s.tables.commands ++ session.commands
      states := session.states.foldl (fun states row => FenceTables.upsert row states) s.tables.states }
    sessions := s.sessions.close i }

/-- `pg_advisory_xact_lock` (postgres.go:84-86). -/
def advisoryLock (environment : String) : Option (Option GoError × FenceStore) :=
  (s.live i).bind fun session =>
    if s.sessions.elsewhere i (FenceSession.holdsKey (db.lockKey environment)) then none
    else some (none, s.put i { session with keys := db.lockKey environment :: session.keys })

/-- The `INSERT ... ON CONFLICT (command_id) DO NOTHING RETURNING fence_version`
(postgres.go:92-101). A row that another transaction is inserting makes it wait; the default
of the version takes a value of the sequence in every case. -/
def insertCommand (c : FenceCommand) : Option (Except GoError Nat × FenceStore) :=
  (s.live i).bind fun session =>
    if ¬ c.storable db.instant then
      some (.error (.database "new row violates check constraint"), s.spoil i)
    else if 2 ^ 63 - 1 ≤ s.tables.sequence then
      some (.error (.database "nextval: reached maximum value of sequence"), s.spoil i)
    else if s.sessions.elsewhere i (FenceSession.inserts c.commandID) then none
    else
      let version := s.tables.sequence + 1
      let taken : FenceStore := { s with tables := { s.tables with sequence := version } }
      if s.tables.commands.any (·.commandID = c.commandID) || session.inserts c.commandID then
        some (.error .noRows, taken)
      else some (.ok version, taken.put i { session with
        commands := session.commands ++ [CommandRow.of c version] })

/-- The `SELECT ... FOR UPDATE` of a recorded command (postgres.go:107-111). -/
def selectCommand (commandID : String) : Option (Except GoError CommandRow × FenceStore) :=
  (s.live i).bind fun session =>
    match s.tables.command commandID with
    | none => some (.error .noRows, s)
    | some row =>
      if s.sessions.elsewhere i (FenceSession.holdsCommand commandID) then none
      else some (.ok row, s.put i { session with commandLocks := commandID :: session.commandLocks })

/-- The upsert of the state (postgres.go:125-137). -/
def upsertState (row : StateRow) : Option (Option GoError × FenceStore) :=
  (s.live i).bind fun session =>
    if s.sessions.elsewhere i (FenceSession.holdsState row.environment) then none
    else some (none, s.put i { session with
      stateLocks := row.environment :: session.stateLocks
      states := session.states ++ [row] })

/-- The `SELECT ... FOR UPDATE` of `AcquireAdmission` (postgres.go:177-181). -/
def selectState (environment : String) : Option (Except GoError StateRow × FenceStore) :=
  (s.live i).bind fun session =>
    match s.tables.stateOf environment with
    | none => some (.error .noRows, s)
    | some row =>
      if s.sessions.elsewhere i (FenceSession.holdsState environment) then none
      else some (.ok row, s.put i { session with stateLocks := environment :: session.stateLocks })

def setLocal (replica : Nat) (local_ : LocalFence) : FenceStore :=
  { s with locals := fun r => if r = replica then local_ else s.locals r }

/-- What the ledger's calls are answered. The context error is that of the caller; the
transactions of the ledger side are not those of the fence. -/
def answerLedger : (port : LedgerPort) → FenceChoice → Option port.Answer
  | .ctxErr, .ends err => if s.cancelled.contains i then (if err.isSome then some err else none)
      else (if err.isNone then some none else none)
  | .now, .reads time => some time
  | .beginReadOnly, .ends err => some err
  | .bindTenant _, .ends err => some err
  | .commitReadOnly, .ends err => some err
  | .createTransfers _, .creates answer => some answer
  | .lookupTransfers _, .finds answer => some answer
  | .projectPostedTransfer _, .ends err => some err
  | .writeLedgerEvent _, .ends err => some err
  | _, _ => none

/-- One call. A statement that waits is not answered yet. A commit may be applied although
its acknowledgement is lost. -/
def exec : (call : FenceCall) → FenceChoice → Option (call.Answer × FenceStore)
  | .beginTx, .proceeds => some (none, s.put i {})
  | .beginTx, .fails text => some (some (.database text), s)
  | .advisoryLock environment, .proceeds => s.advisoryLock db i environment
  | .advisoryLock _, .fails text => some (some (.database text), s.spoil i)
  | .insertCommand c, .proceeds => s.insertCommand db i c
  | .insertCommand _, .fails text => some (.error (.database text), s.spoil i)
  | .selectCommand commandID, .proceeds => s.selectCommand i commandID
  | .selectCommand _, .fails text => some (.error (.database text), s.spoil i)
  | .upsertState row, .proceeds => s.upsertState i row
  | .upsertState _, .fails text => some (some (.database text), s.spoil i)
  | .selectState environment, .proceeds => s.selectState i environment
  | .selectState _, .fails text => some (.error (.database text), s.spoil i)
  | .commit, .proceeds => (s.live i).map fun session => (none, s.commit i session)
  | .commit, .loses text =>
    (s.live i).map fun session => (some (.database text), s.commit i session)
  | .commit, .fails text => some (some (.database text), s.close i)
  | .rollback, .proceeds => some ((), s.close i)
  | .loadState environment, .proceeds =>
    some ((s.tables.stateOf environment).elim (.error .noRows) .ok, s)
  | .loadState _, .fails text => some (.error (.database text), s)
  | .seen replica commandID, .proceeds => some ((s.locals replica).seen.contains commandID, s)
  | .applyLocal replica c, .proceeds => some ((), s.setLocal replica ((s.locals replica).apply c))
  | .setLocal replica state, .proceeds => some ((), s.setLocal replica ((s.locals replica).set state))
  | .readLocal replica, .proceeds =>
    let local_ := s.locals replica
    some (⟨local_.fenced, local_.version, local_.reason⟩, s)
  | .ledger port, choice => (s.answerLedger i port choice).map fun answer => (answer, s)
  | _, _ => none

end FenceStore

/-! ## Everyone over one pair of tables -/

/-- What is asked of a replica. -/
inductive FenceTask where
  | record (c : FenceCommand)
  | apply (c : FenceCommand) (now : Time)
  | check
  | post (operation : GuardedOperation) (req : PostingRequest)
  | lookup (id : UInt64)
  deriving DecidableEq

structure FenceJob where
  replica : Nat
  task : FenceTask
  deriving DecidableEq

inductive FenceOutcome where
  | ended (err : Option GoError)
  | posted (posting : Posting)
  | found (observation : TransferObservation) (err : Option GoError)

/-- The replicas: each has one fence and one posting service. A replica that is restarted
counts as another one, since its fence starts again. -/
structure Fleet where
  library : FenceLibrary
  lockKey : String → UInt64
  fence : Nat → SettlementFence
  own : ∀ replica, (fence replica).replica = replica
  inner : Nat → PostingService

namespace Fleet

variable (fleet : Fleet)

def ledger (replica : Nat) : GuardedLedger := ⟨fleet.fence replica, fleet.inner replica⟩

def database : FenceDatabase := ⟨fleet.lockKey, fleet.library.instant⟩

def program [LedgerLibrary] (job : FenceJob) : FenceWork FenceOutcome :=
  match job.task with
  | .record c => do return .ended (← recordFenceCommandContext c)
  | .apply c now => do
    return .ended (← (fleet.fence job.replica).applyContext fleet.library c now)
  | .check => do return .ended (← (fleet.fence job.replica).checkContext)
  | .post operation req => do return .posted (← (fleet.ledger job.replica).post operation req)
  | .lookup id => do
    let (observation, err) ← (fleet.ledger job.replica).lookupTransfer id
    return .found observation err

end Fleet

/-- What happens beside the calls: a cancelled context, a lost connection, a used value of the
sequence. -/
inductive FenceEvent where
  | cancel (thread : Nat)
  | rollback (thread : Nat)
  | disconnect (thread : Nat)
  | skip

def FenceStore.occur (s : FenceStore) : FenceEvent → Option FenceStore
  | .cancel thread => some { s with cancelled := thread :: s.cancelled }
  | .rollback thread => if s.cancelled.contains thread then some (s.close thread) else none
  | .disconnect thread => some (s.close thread)
  | .skip => some { s with tables := { s.tables with sequence := s.tables.sequence + 1 } }

abbrev FenceThread := Thread fenceCalls FenceJob FenceOutcome

abbrev FenceConfig := Config fenceCalls FenceJob FenceOutcome FenceStore

/-- Any number of calls on any number of replicas, started at any time. -/
def replicas [LedgerLibrary] (fleet : Fleet) :
    Machine fenceCalls FenceJob FenceOutcome FenceStore FenceChoice FenceEvent where
  spawn _ job := some (fleet.program job)
  exec s i _ call choice := s.exec fleet.database i call choice
  env := FenceStore.occur

end UmojaFlowOS.Fencing
