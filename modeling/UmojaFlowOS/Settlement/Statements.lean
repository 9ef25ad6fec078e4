import UmojaFlowOS.Interaction.Concurrent
import UmojaFlowOS.Relational.Sessions
import UmojaFlowOS.Settlement.Tables

/-!
# The SQL statements of the saga store

Every statement that `PostgresSagaStore` sends, and what PostgreSQL does with it
at READ COMMITTED: a statement sees the committed rows and the writes of its own
transaction, `FOR UPDATE` and `UPDATE` lock the rows they touch until the
transaction ends and wait for rows locked elsewhere, and a commit applies all
writes at once if every key and check holds. A statement may fail at any moment,
a transaction may be lost, and a commit may be applied although its
acknowledgement never arrives.
-/

namespace UmojaFlowOS.Settlement

open Interaction Relational

inductive Statement where
  | beginTx (tenantID : String)
  | insertSaga (record : SettlementRecord)
  | selectSagaForUpdate (tenantID idempotencyKey : String)
  | updateSaga (values : SettlementRecord) (tenantID sagaID : String) (version : Nat)
      (stage : ExecutionStage)
  | insertTransition (row : TransitionRow)
  | insertOutbox (row : OutboxRow)
  | claimUnknown (tenantID : String) (now : Time) (limit : Int) (owner : String)
      (leasedUntil : Time)
  | selectAuthorization (tenantID sagaID : String) (decision : Decision) (now : Time)
  | selectAuthorizationForUpdate (authorization : ResolutionAuthorization) (now : Time)
  | selectLease (tenantID sagaID : String)
  | resolveSaga (values : SettlementRecord) (tenantID sagaID : String) (version : Nat)
      (owner : String)
  | consumeAuthorization (now : Time) (owner tenantID sagaID authorizationID : String)
  | commit

/-- What a statement returns when it succeeds: rows, or the number of rows affected. -/
@[reducible] def Statement.Rows : Statement → Type
  | beginTx _ => Unit
  | insertSaga _ => Option SettlementRecord
  | selectSagaForUpdate _ _ => SettlementRecord
  | updateSaga _ _ _ _ _ => Nat
  | insertTransition _ => Unit
  | insertOutbox _ => Unit
  | claimUnknown _ _ _ _ _ => List String
  | selectAuthorization _ _ _ _ => ResolutionAuthorization
  | selectAuthorizationForUpdate _ _ => String
  | selectLease _ _ => String × Option Time
  | resolveSaga _ _ _ _ _ => Nat
  | consumeAuthorization _ _ _ _ _ => Nat
  | commit => Unit

/-- The calls of the store: statements, the deferred rollback and the clock. -/
inductive SqlCall where
  | run (statement : Statement)
  | rollback
  | now

@[reducible] def SqlCall.Answer : SqlCall → Type
  | run statement => Except GoError statement.Rows
  | rollback => Unit
  | now => Time

@[reducible] def sql : Interface where
  Call := SqlCall
  Answer := SqlCall.Answer

abbrev Sql (α : Type) := Program sql α

def run (statement : Statement) : Sql (Except GoError statement.Rows) :=
  Program.ask (P := sql) (.run statement)

def rollback : Sql Unit := Program.ask (P := sql) .rollback

def clock : Sql Time := Program.ask (P := sql) .now

/-! ## Writes -/

/-- What a statement changes once its transaction commits. -/
inductive Write where
  | insertSaga (record : SettlementRecord)
  | updateSaga (values : SettlementRecord) (tenantID sagaID : String) (version : Nat)
      (stage : ExecutionStage)
  | insertTransition (row : TransitionRow)
  | insertOutbox (row : OutboxRow)
  | lease (tenantID : String) (keys : List String) (owner : String) (leasedUntil : Time)
  | resolveSaga (values : SettlementRecord) (tenantID sagaID : String) (version : Nat)
      (owner : String)
  | consume (now : Time) (owner tenantID sagaID authorizationID : String)

namespace SagaRow

/-- The `WHERE` of `Advance` (`postgres_saga.go:432`). -/
def atVersion (tenantID sagaID : String) (version : Nat) (stage : ExecutionStage) (row : SagaRow) :
    Bool :=
  row.sagaKey = (tenantID, sagaID) && row.record.version = version && row.record.stage = stage

/-- The columns `Advance` sets (`postgres_saga.go:428-431`); the trigger
`settlement_saga_updated_at` overwrites `updated_at` with the server's clock. -/
def advanced (values : SettlementRecord) (stamp : String → Time) (row : SagaRow) : SagaRow :=
  { row with
    record := { row.record with
      stage := values.stage
      routeID := values.routeID
      providerReference := values.providerReference
      custodyReference := values.custodyReference
      blockchainTx := values.blockchainTx
      ledgerPendingID := values.ledgerPendingID
      ledgerTransferID := values.ledgerTransferID
      attestationID := values.attestationID
      failureClass := values.failureClass
      reconciliationRunID := values.reconciliationRunID
      version := values.version
      terminalAt := values.terminalAt
      updatedAt := stamp row.record.sagaID } }

/-- The `WHERE` of `ResolveUnknownSaga` (`unknown_saga_store.go:187`). -/
def leasedUnknown (tenantID sagaID : String) (version : Nat) (owner : String) (row : SagaRow) :
    Bool :=
  row.sagaKey = (tenantID, sagaID) && row.record.stage = .unknown &&
    row.record.version = version && row.leaseOwner = owner

/-- The columns `ResolveUnknownSaga` sets (`unknown_saga_store.go:187`): as
`Advance`, but without `route_id`, and the lease is cleared. -/
def resolved (values : SettlementRecord) (stamp : String → Time) (row : SagaRow) : SagaRow :=
  { row.advanced { values with routeID := row.record.routeID } stamp with
    leaseOwner := ""
    leasedUntil := none }

/-- The columns a claim sets (`unknown_saga_store.go:59`). -/
def claimed (owner : String) (leasedUntil : Time) (stamp : String → Time) (row : SagaRow) :
    SagaRow :=
  { row with
    record := { row.record with updatedAt := stamp row.record.sagaID }
    leaseOwner := owner
    leasedUntil := some leasedUntil
    attempts := row.attempts + 1 }

end SagaRow

/-- `stamp` gives the server's clock reading for each updated saga. -/
def Database.apply (stamp : String → Time) (db : Database) : Write → Database
  | .insertSaga record => { db with sagas := db.sagas ++ [{ record := record }] }
  | .updateSaga values tenantID sagaID version stage =>
    { db with
      sagas := updateWhere (SagaRow.atVersion tenantID sagaID version stage)
        (SagaRow.advanced values stamp) db.sagas }
  | .insertTransition row => { db with transitions := db.transitions ++ [row] }
  | .insertOutbox row => { db with outbox := db.outbox ++ [row] }
  | .lease tenantID keys owner leasedUntil =>
    { db with
      sagas := updateWhere
        (fun row => row.record.tenantID = tenantID && keys.contains row.record.idempotencyKey)
        (SagaRow.claimed owner leasedUntil stamp) db.sagas }
  | .resolveSaga values tenantID sagaID version owner =>
    { db with
      sagas := updateWhere (SagaRow.leasedUnknown tenantID sagaID version owner)
        (SagaRow.resolved values stamp) db.sagas }
  | .consume now owner tenantID sagaID authorizationID =>
    { db with
      authorizations := updateWhere
        (fun row => row.key = (tenantID, sagaID, authorizationID) && row.consumed.isNone)
        (fun row => { row with consumed := some (now, owner) }) db.authorizations }

def Database.applyAll (stamp : String → Time) (db : Database) (writes : List Write) : Database :=
  writes.foldl (Database.apply stamp) db

/-! ## Transactions -/

/-- The tenant a caller's last transaction was bound to, and what it has written
and learned in it. -/
structure View where
  tenantID : String := ""
  writes : List Write := []
  reads : List SettlementRecord := []
  leases : List ((String × String) × String × Option Time) := []
  approvals : List (ResolutionAuthorization × Time) := []

def View.write (view : View) (write : Write) : View := { view with writes := view.writes ++ [write] }

/-- The view after an answered statement; an update that affected no row writes nothing. -/
def View.after (view : View) : (statement : Statement) → Except GoError statement.Rows → View
  | .beginTx tenantID, answer => if answer.isOk then { tenantID := tenantID } else view
  | .insertSaga record, answer =>
    match answer with
    | .ok (some _) => view.write (.insertSaga record)
    | _ => view
  | .selectSagaForUpdate _ _, answer =>
    match answer with
    | .ok record => { view with reads := view.reads ++ [record] }
    | .error _ => view
  | .updateSaga values tenantID sagaID version stage, answer =>
    match answer with
    | .ok (_ + 1) => view.write (.updateSaga values tenantID sagaID version stage)
    | _ => view
  | .insertTransition row, answer => if answer.isOk then view.write (.insertTransition row) else view
  | .insertOutbox row, answer => if answer.isOk then view.write (.insertOutbox row) else view
  | .claimUnknown tenantID _ _ owner leasedUntil, answer =>
    match answer with
    | .ok keys => view.write (.lease tenantID keys owner leasedUntil)
    | .error _ => view
  | .selectAuthorization _ _ _ _, _ => view
  | .selectAuthorizationForUpdate authorization now, answer =>
    if answer.isOk then { view with approvals := view.approvals ++ [(authorization, now)] } else view
  | .selectLease tenantID sagaID, answer =>
    match answer with
    | .ok lease => { view with leases := view.leases ++ [((tenantID, sagaID), lease)] }
    | .error _ => view
  | .resolveSaga values tenantID sagaID version owner, answer =>
    match answer with
    | .ok (_ + 1) => view.write (.resolveSaga values tenantID sagaID version owner)
    | _ => view
  | .consumeAuthorization now owner tenantID sagaID authorizationID, answer =>
    match answer with
    | .ok (_ + 1) => view.write (.consume now owner tenantID sagaID authorizationID)
    | _ => view
  | .commit, _ => { view with writes := [] }

def View.observe (view : View) : Event sql → View
  | ⟨.run statement, answer⟩ => view.after statement answer
  | ⟨.rollback, _⟩ => { view with writes := [] }
  | ⟨.now, _⟩ => view

/-- An open transaction: the server's clock readings for its updates, what its caller has seen,
and the locked rows as they were then. Row security shows it the rows of its tenant only. -/
structure Session where
  stamp : String → Time
  view : View := {}
  locks : List SagaRow := []
  authorizationLocks : List AuthorizationRow := []
  failed : Bool := false

def Session.visible (session : Session) (db : Database) : Database :=
  db.applyAll session.stamp session.view.writes

/-- The database with its open transactions. `accepted` lists the store calls
whose writes were committed, each with its caller, in the order of their commits. -/
structure StoreState where
  db : Database := {}
  sessions : Sessions Session := {}
  accepted : List (Nat × StoreCall) := []

namespace StoreState

section
variable (s : StoreState)

section
variable (i : Nat)

def session : Option Session :=
  s.sessions.get i

def close : StoreState :=
  { s with sessions := s.sessions.close i }

def put (session : Session) : StoreState :=
  { s with sessions := s.sessions.put i session }

def lockedElsewhere (row : SagaRow) : Bool :=
  s.sessions.elsewhere i fun other => other.locks.any (·.key = row.key)

def authorizationLockedElsewhere (row : AuthorizationRow) : Bool :=
  s.sessions.elsewhere i fun other => other.authorizationLocks.any (·.key = row.key)

/-- Another transaction than that of `i` has inserted a saga under the key and
not yet ended: `ON CONFLICT` waits for it. -/
def insertedElsewhere (tenantID idempotencyKey : String) : Bool :=
  s.sessions.elsewhere i fun other => other.view.writes.any fun write =>
    match write with
    | .insertSaga record => record.tenantID = tenantID && record.idempotencyKey = idempotencyKey
    | _ => false

end

end

end StoreState

/-- What is left open when a statement runs. -/
inductive SqlChoice where
  | ok
  | reads (time : Time)
  | begins (stamp : String → Time)
  | picks (keys : List String)
  | fails (text : String)
  | loses (text : String)

/-- The rows a claim may take: `SKIP LOCKED` passes over rows locked elsewhere. -/
def eligible (s : StoreState) (i : Nat) (session : Session) (tenantID : String) (now : Time) :
    List SagaRow :=
  (session.visible s.db).sagas.filter fun row =>
    row.record.tenantID = tenantID && row.record.tenantID = session.view.tenantID &&
      row.record.stage = .unknown && row.leasedUntil.all (· < now) && !s.lockedElsewhere i row

/-- `ORDER BY updated_at LIMIT n`: as many as the limit allows, oldest first;
which of several equally old rows, and in which order, is PostgreSQL's choice. -/
def picksOldest (rows : List SagaRow) (limit : Int) (keys : List String) : Bool :=
  keys.Nodup && keys.length = min limit.toNat rows.length &&
    keys.all (fun key => rows.any (·.record.idempotencyKey = key)) &&
    rows.all fun kept => keys.contains kept.record.idempotencyKey ||
      rows.all fun taken => !keys.contains taken.record.idempotencyKey ||
        taken.record.updatedAt ≤ kept.record.updatedAt

/-- The answer of a statement and the rows it locks; `none` while it has to wait. -/
def Session.query (session : Session) (s : StoreState) (i : Nat) :
    (statement : Statement) → SqlChoice →
      Option (Except GoError statement.Rows × List SagaRow × List AuthorizationRow)
  | .insertSaga record, .ok =>
    if s.insertedElsewhere i record.tenantID record.idempotencyKey then none
    else if (session.visible s.db).sagas.any
        (·.key = (record.tenantID, record.idempotencyKey)) then some (.ok none, [], [])
    else some (.ok (some record), [], [])
  | .selectSagaForUpdate tenantID idempotencyKey, .ok =>
    match (session.visible s.db).sagas.find? fun row =>
      row.key = (tenantID, idempotencyKey) && row.record.tenantID = session.view.tenantID with
    | none => some (.error .noRows, [], [])
    | some row => if s.lockedElsewhere i row then none else some (.ok row.record, [row], [])
  | .updateSaga _ tenantID sagaID version stage, .ok =>
    let rows := (session.visible s.db).sagas.filter (SagaRow.atVersion tenantID sagaID version stage)
    if rows.any (s.lockedElsewhere i) then none else some (.ok rows.length, rows, [])
  | .insertTransition _, .ok => some (.ok (), [], [])
  | .insertOutbox _, .ok => some (.ok (), [], [])
  | .claimUnknown tenantID now limit _ _, .picks keys =>
    let rows := eligible s i session tenantID now
    if picksOldest rows limit keys then
      some (.ok keys, rows.filter (fun row => keys.contains row.record.idempotencyKey), [])
    else none
  | .selectAuthorization tenantID sagaID decision now, .ok =>
    match (session.visible s.db).authorizations.find? fun row =>
      row.authorization.tenantID = tenantID && row.authorization.sagaID = sagaID &&
        row.authorization.tenantID = session.view.tenantID && row.authorization.decision = decision &&
        row.consumed.isNone && now < row.authorization.expiresAt with
    | none => some (.error .noRows, [], [])
    | some row => some (.ok row.authorization, [], [])
  | .selectAuthorizationForUpdate a now, .ok =>
    match (session.visible s.db).authorizations.find? fun row =>
      row.key = (a.tenantID, a.sagaID, a.authorizationID) &&
        row.authorization.tenantID = session.view.tenantID &&
        row.authorization.decision = a.decision && row.authorization.releaseSHA = a.releaseSHA &&
        row.authorization.manifestSHA256 = a.manifestSHA256 &&
        row.authorization.reconciliationRunID = a.reconciliationRunID &&
        row.authorization.evidenceSHA256 = a.evidenceSHA256 &&
        row.consumed.isNone && now < row.authorization.expiresAt with
    | none => some (.error .noRows, [], [])
    | some row =>
      if s.authorizationLockedElsewhere i row then none
      else some (.ok row.authorization.authorizationID, [], [row])
  | .selectLease tenantID sagaID, .ok =>
    match (session.visible s.db).sagas.find? fun row =>
      row.sagaKey = (tenantID, sagaID) && row.record.tenantID = session.view.tenantID with
    | none => some (.error .noRows, [], [])
    | some row =>
      if s.lockedElsewhere i row then none else some (.ok (row.leaseOwner, row.leasedUntil), [row], [])
  | .resolveSaga _ tenantID sagaID version owner, .ok =>
    let rows := (session.visible s.db).sagas.filter
      (SagaRow.leasedUnknown tenantID sagaID version owner)
    if rows.any (s.lockedElsewhere i) then none else some (.ok rows.length, rows, [])
  | .consumeAuthorization _ _ tenantID sagaID authorizationID, .ok =>
    let rows := (session.visible s.db).authorizations.filter fun row =>
      row.key = (tenantID, sagaID, authorizationID) && row.consumed.isNone
    if rows.any (s.authorizationLockedElsewhere i) then none else some (.ok rows.length, [], rows)
  | _, _ => none

/-- A committed transaction; `call` is the store call it belongs to. -/
def StoreState.commit (s : StoreState) (i : Nat) (call : StoreCall) (session : Session) :
    StoreState :=
  { s.close i with
    db := session.visible s.db
    accepted := if session.view.writes = [] then s.accepted else s.accepted ++ [(i, call)] }

/-- One call of the store made by thread `i` on behalf of `call`. -/
def StoreState.exec (s : StoreState) (i : Nat) (call : StoreCall) :
    (request : SqlCall) → SqlChoice → Option (request.Answer × StoreState)
  | .now, .reads time => some (time, s)
  | .now, _ => none
  | .rollback, .ok => some ((), s.close i)
  | .rollback, _ => none
  | .run (.beginTx tenantID), .begins stamp =>
    some (.ok (), s.put i { stamp := stamp, view := { tenantID := tenantID } })
  | .run .commit, .fails text => some (.error (.database text), s.close i)
  | .run .commit, .ok =>
    match s.session i with
    | some session =>
      if session.failed = false ∧ WellFormed (session.visible s.db) then
        some (.ok (), s.commit i call session)
      else none
    | none => none
  | .run .commit, .loses text =>
    match s.session i with
    | some session =>
      if session.failed = false ∧ WellFormed (session.visible s.db) then
        some (.error (.database text), s.commit i call session)
      else none
    | none => none
  | .run _, .fails text =>
    some (.error (.database text),
      match s.session i with
      | some session => s.put i { session with failed := true }
      | none => s)
  | .run statement, choice =>
    match s.session i with
    | some session =>
      if session.failed then none
      else (session.query s i statement choice).map fun (answer, rows, authorizations) =>
        (answer, s.put i
          { session with
            view := session.view.observe ⟨.run statement, answer⟩
            locks := session.locks ++ rows
            authorizationLocks := session.authorizationLocks ++ authorizations })
    | none => none

end UmojaFlowOS.Settlement
