import UmojaFlowOS.Interaction.Concurrent
import UmojaFlowOS.Payments.PaymentWorkflow
import UmojaFlowOS.Relational.Sessions

/-!
# Payment transactions

The tables under read committed transactions with row locks, any number of calls of the
workflow over them, and an outside recorder of policy decisions. A statement reads the
committed tables with what its own transaction has written; whoever reads a row
`FOR UPDATE`, updates it or inserts it holds it until the transaction ends, and a statement
that needs what another transaction holds waits.
-/

namespace UmojaFlowOS.Payments

open Interaction Relational

/-! ## What a transaction has read and written -/

inductive PaymentRead where
  | lock (row : RateLock)
  | binding (lock : Uuid) (order : Option Uuid)
  | order (row : PaymentOrder)
  | leg (row : PaymentLeg) (orderStatus : PaymentStatus)

/-- The rows that were read `FOR UPDATE`. -/
def PaymentRead.keys : PaymentRead → List RowKey
  | lock row => [.lock row.id]
  | binding _ _ => []
  | order row => [.order row.id]
  | leg row _ => [.leg row.id]

structure PaymentView where
  reads : List PaymentRead := []
  writes : List PaymentWrite := []

namespace PaymentView

section
variable (view : PaymentView)

def keys : List RowKey :=
  view.reads.flatMap PaymentRead.keys ++ view.writes.flatMap PaymentWrite.keys

def read (row : PaymentRead) : PaymentView :=
  { view with reads := view.reads ++ [row] }

def write (change : PaymentWrite) : PaymentView :=
  { view with writes := view.writes ++ [change] }

def observe : (statement : Statement) → statement.Rows → PaymentView
  | .begin, _ => {}
  | .commit, _ => {}
  | .insertLock new, some id => view.write (.insertLock (new.row id))
  | .selectLock _, some row => view.read (.lock row)
  | .selectBinding id, found => view.read (.binding id (found.getD none))
  | .cancelLock id, some _ => view.write (.lockStatus [id] .cancelled)
  | .expireLocks _, rows => view.write (.lockStatus (rows.map (·.id)) .expired)
  | .insertOrder new, some id => view.write (.insertOrder (new.row id))
  | .bindLock order lock, _ + 1 => view.write (.bind lock order)
  | .selectOrder _, some row => view.read (.order row)
  | .insertLeg new, some id => view.write (.insertLeg (new.row id))
  | .updateOrder status id, some _ =>
    (PaymentStatus.ofText status).elim view fun status => view.write (.orderStatus id status)
  | .selectLeg _, some (row, orderStatus) => view.read (.leg row orderStatus)
  | .updateLeg status id, some _ =>
    (PaymentStatus.ofText status).elim view fun status => view.write (.legStatus id status)
  | .recordEvent event, _ => view.write (.event event)
  | _, _ => view

/-- The same for an answered call; after an error nothing is left of the transaction. -/
def after : Event paymentCalls → PaymentView
  | ⟨.run statement, .ok rows⟩ => view.observe statement rows
  | ⟨.run _, .error _⟩ => {}
  | ⟨.rollback, _⟩ => {}
  | ⟨.now, _⟩ => view
  | ⟨.randomUUID, _⟩ => view

end

end PaymentView

/-- An open transaction. After an error it takes no further statement and holds nothing. -/
structure PaymentSession where
  view : PaymentView := {}
  /-- The order that the last leg was looked up with, as the statement has found it. -/
  snapshot : List PaymentOrder := []
  failed : Bool := false

/-- What is left open when a call is made. -/
inductive PaymentChoice where
  | proceeds
  | fails (text : String)
  | loses (text : String)
  | reads (time : Int)
  | assigns (id : Uuid)
  /-- The time of `now()`, and which of the rows the statement has come upon. -/
  | expires (time : Int) (ids : List Uuid)
  deriving DecidableEq

/-- The kinds of legs (0001:156). -/
def legKinds : List String := ["collection", "fx", "stablecoin_settlement", "payout", "reversal"]

namespace PaymentSession

def holds (key : RowKey) (session : PaymentSession) : Bool := session.view.keys.contains key

/-- The answer to a statement over the tables `t` that the transaction sees, if the choice is
one that the statement has. -/
def answer (session : PaymentSession) (t : PaymentTables) :
    (statement : Statement) → PaymentChoice → Option (Except String statement.Rows)
  | .selectObservation id, .proceeds => some (.ok (t.observations.find? fun row => row.id = id))
  | .insertLock new, .assigns id =>
    if t.locks.any (fun row => row.id = id) then none
    else if ¬ new.lockedRate.fits 30 12 then some (.error "numeric field overflow")
    else if (new.row id).lockedRate.unscaled ≤ 0 ∨ new.baseAsset = new.quoteAsset then
      some (.error "new row violates check constraint")
    else some (.ok (some id))
  | .selectLock id, .proceeds => some (.ok (t.locks.find? fun row => row.id = id))
  | .selectBinding id, .proceeds =>
    some (.ok ((t.locks.find? fun row => row.id = id).map (·.paymentOrderID)))
  | .cancelLock id, .proceeds => some (.ok ((t.locks.find? fun row => row.id = id).map (·.id)))
  | .expireLocks given, .expires time ids =>
    some (.ok (t.locks.filter fun row =>
      row.status = .locked && row.expiresAt ≤ given.getD time && ids.contains row.id))
  | .selectBeneficiary id, .proceeds => some (.ok (t.beneficiaries.find? fun row => row.id = id))
  | .derive source rate, .proceeds => some (.ok ((source.mul rate).roundTo 8))
  | .insertOrder new, .assigns id =>
    if t.orders.any (fun row => row.id = id) then none
    else if ¬ new.sourceAmount.fits 30 12 ∨ ¬ new.targetAmount.fits 30 12 then
      some (.error "numeric field overflow")
    else if (new.row id).sourceAmount.unscaled ≤ 0 then
      some (.error "new row violates check constraint")
    else if t.orders.any (fun row => row.idempotencyKey = new.idempotencyKey) then some (.ok none)
    else some (.ok (some id))
  | .selectReplay key, .proceeds =>
    some (.ok ((t.orders.find? fun row => row.idempotencyKey = key).map fun row =>
      ⟨row.id, row.status, row.targetAmount,
        (t.locks.find? fun lock => lock.paymentOrderID = some row.id).map (·.id)⟩))
  | .bindLock _ lock, .proceeds =>
    some (.ok (t.locks.countP fun row => row.id = lock && row.paymentOrderID = none))
  | .selectOrder id, .proceeds => some (.ok (t.orders.find? fun row => row.id = id))
  | .countAuthorised id, .proceeds => some (.ok (t.authorised.countP fun other => other = id))
  | .insertLeg new, .assigns id =>
    if t.legs.any (fun row => row.id = id) then none
    else if 2 ^ 31 ≤ new.sequenceNumber then some (.error "integer out of range")
    else if new.sequenceNumber ≤ 0 ∨ ¬ legKinds.contains new.legKind then
      some (.error "new row violates check constraint")
    else if t.legs.any (fun row =>
        row.paymentOrderID = new.paymentOrderID && row.sequenceNumber = new.sequenceNumber) then
      some (.error "duplicate key value violates unique constraint")
    else if ¬ t.orders.any (fun row => row.id = new.paymentOrderID) then
      some (.error "insert violates foreign key constraint")
    else some (.ok (some id))
  | .updateOrder status id, .proceeds =>
    match PaymentStatus.ofText status with
    | none => some (.error "invalid input value for enum payment_status")
    | some _ => some (.ok ((t.orders.find? fun row => row.id = id).map (·.id)))
  | .startSelectLeg _, .proceeds => some (.ok ())
  | .selectLeg id, .proceeds =>
    some (.ok ((t.legs.find? fun row => row.id = id).bind fun leg =>
      (session.snapshot.find? fun order => order.id = leg.paymentOrderID).map fun order =>
        (leg, order.status)))
  | .updateLeg status id, .proceeds =>
    match PaymentStatus.ofText status with
    | none => some (.error "invalid input value for enum payment_status")
    | some _ => some (.ok ((t.legs.find? fun row => row.id = id).map (·.id)))
  | .recordEvent _, .proceeds => some (.ok ())
  | _, _ => none

def advance (session : PaymentSession) (t : PaymentTables) (statement : Statement)
    (rows : statement.Rows) : PaymentSession where
  view := session.view.observe statement rows
  snapshot :=
    match statement with
    | .startSelectLeg id => t.orders.filter fun order =>
      t.legs.any fun leg => leg.id = id && leg.paymentOrderID = order.id
    | _ => session.snapshot

end PaymentSession

/-! ## The database -/

structure PaymentStore where
  tables : PaymentTables := {}
  sessions : Sessions PaymentSession := {}

namespace PaymentStore

variable (s : PaymentStore) (i : Nat)

def live : Option PaymentSession := s.sessions.live (·.failed) i

section
variable (session : PaymentSession)

def put : PaymentStore := { s with sessions := s.sessions.put i session }

def close : PaymentStore := { s with sessions := s.sessions.close i }

/-- A statement that fails aborts the transaction of `i`, if it has one. -/
def spoil : PaymentStore :=
  { s with sessions := s.sessions.spoil (fun _ => { failed := true }) i }

def commit : PaymentStore where
  tables := s.tables.applyAll session.view.writes
  sessions := s.sessions.close i

def waits : Bool :=
  session.view.keys.any fun key => s.sessions.elsewhere i (PaymentSession.holds key)

def query (statement : Statement) (choice : PaymentChoice) :
    Option (Except String statement.Rows × PaymentStore) :=
  let t := s.tables.applyAll session.view.writes
  match session.answer t statement choice with
  | none => none
  | some (.error text) => some (.error text, s.spoil i)
  | some (.ok rows) =>
    let later := session.advance t statement rows
    if s.waits i later then none else some (.ok rows, s.put i later)

end

/-- One call. A statement that waits is not answered yet. A commit may be applied although
its acknowledgement is lost. -/
def exec : (call : PaymentCall) → PaymentChoice → Option (call.Answer × PaymentStore)
  | .now, .reads time => some (time, s)
  | .randomUUID, .assigns id => some (id, s)
  | .rollback, .proceeds => some ((), s.close i)
  | .run .begin, .proceeds => some (.ok (), s.put i {})
  | .run .commit, .proceeds => (s.live i).map fun session => (.ok (), s.commit i session)
  | .run .commit, .loses text => (s.live i).map fun session => (.error text, s.commit i session)
  | .run .commit, .fails text => some (.error text, s.close i)
  | .run _, .fails text => some (.error text, s.spoil i)
  | .run statement, choice => (s.live i).bind fun session => s.query i session statement choice
  | _, _ => none

end PaymentStore

/-! ## Everyone over the tables -/

/-- What happens beside the calls: lost connections, and what others write. -/
inductive PaymentEvent where
  | disconnect (thread : Nat)
  | reference (observations : List MarketObservation) (beneficiaries : List Beneficiary)
      (authorised : List Uuid)
  | recordDecision (decision : PolicyDecision)
  | attach (order decision : Uuid)

/-- `UPDATE payment_orders SET policy_decision_id = ...` of the recorder. -/
def PaymentTables.attach (t : PaymentTables) (order decision : Uuid) : PaymentTables :=
  { t with
    orders := updateWhere (fun row => row.id = order)
      (fun row => { row with policyDecisionID := some decision }) t.orders }

/-- A decision belongs to an existing order, an attached decision exists (the foreign keys
of 0001:166 and 0001:176), and a locked order is not updated. -/
def PaymentStore.occur (s : PaymentStore) : PaymentEvent → Option PaymentStore
  | .disconnect thread => some (s.close thread)
  | .reference observations beneficiaries authorised =>
    some { s with tables := { s.tables with
      observations := observations, beneficiaries := beneficiaries, authorised := authorised } }
  | .recordDecision decision =>
    if s.tables.decisions.any (fun row => row.id = decision.id) ∨
        ¬ s.tables.orders.any (fun row => row.id = decision.paymentOrderID) then none
    else some { s with tables := { s.tables with decisions := s.tables.decisions ++ [decision] } }
  | .attach order decision =>
    if s.sessions.anywhere (PaymentSession.holds (.order order)) ∨
        ¬ s.tables.decisions.any (fun row => row.id = decision) then none
    else some { s with tables := s.tables.attach order decision }

abbrev PaymentThread := Thread paymentCalls PaymentJob (Except String PaymentOutcome)

abbrev PaymentConfig := Config paymentCalls PaymentJob (Except String PaymentOutcome) PaymentStore

/-- Any number of calls, started at any time. -/
def controlPlane :
    Machine paymentCalls PaymentJob (Except String PaymentOutcome) PaymentStore PaymentChoice
      PaymentEvent where
  spawn _ job := some job.code.run
  exec s i _ call choice := s.exec i call choice
  env := PaymentStore.occur

end UmojaFlowOS.Payments
