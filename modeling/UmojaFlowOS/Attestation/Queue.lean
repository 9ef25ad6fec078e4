import UmojaFlowOS.Crypto.Sha256
import UmojaFlowOS.Go.Errors
import UmojaFlowOS.Go.Strings
import UmojaFlowOS.Interaction.Program

/-!
# The Fabric attestation queue

`PostgreSQLQueue` (`internal/attestation/queue.go`) as programs over its SQL statements,
the clock and the random source, next to the calls of the worker that uses it
(`worker.go`) and of the Fabric gateway (`fabric.go`). The metrics are left out.
-/

namespace UmojaFlowOS.Attestation

open Go Interaction

/-- Nanoseconds. -/
abbrev Time := Int

/-! ## Items -/

/-- The states the `CHECK` of the table admits (0057:11). -/
inductive ItemState where
  | pending
  | running
  | unknown
  | complete
  deriving DecidableEq

/-- `QueueItem` (queue.go:18-32). -/
structure QueueItem where
  id : String := ""
  idempotencyKey : String
  releaseSHA : String
  evidenceID : String
  evidenceURI : String := ""
  payloadDigest : String
  endorsementScope : String := ""
  state : ItemState := .pending
  attempts : Nat := 0
  leaseToken : String := ""
  leaseUntil : Time := 0
  nextAttemptAt : Time := 0
  lastError : String := ""
  deriving DecidableEq

/-- What the `WHERE` of `MarkUnknown` and `MarkComplete` takes from an item
(queue.go:138, 165). -/
structure LeaseKey where
  id : String
  attempts : Nat
  token : String
  deriving DecidableEq

def QueueItem.lease (item : QueueItem) : LeaseKey := ⟨item.id, item.attempts, item.leaseToken⟩

/-! ## Fabric -/

/-- `Request` (fabric.go:16-22). -/
structure Request where
  releaseSHA : String
  evidenceID : String
  evidenceURI : String
  evidence : List UInt8
  endorsementScope : String
  deriving DecidableEq

/-- `Record` (fabric.go:24-31). -/
structure Record where
  attestationID : String
  releaseSHA : String
  evidenceID : String
  evidenceSHA256 : String
  evidenceURI : String := ""
  endorsementScope : String := ""

/-! ## The calls -/

/-- What the queue and the worker ask. -/
inductive QueueCall where
  | now
  | randomBytes
  | insertItem (item : QueueItem)
  | beginTx
  | selectDue (now : Time)
  | claimItem (lease : LeaseKey) (leaseUntil : Time)
  | commit
  | rollback
  | markUnknown (lease : LeaseKey) (next : Time) (reason : String)
  | markComplete (lease : LeaseKey) (attestationID : String)
  | acquire
  | verifyManifest (item : QueueItem)
  | loadEvidence (evidenceURI : String)
  | submitAttestation (req : Request) (digest : String)
  | evaluateAttestation (recordID : String)
  deriving DecidableEq

structure RandomRead where
  bytes : List UInt8
  failed : Bool := false

abbrev QueueCall.Answer : QueueCall → Type
  | now => Time
  | randomBytes => RandomRead
  | insertItem _ => Except GoError Nat
  | beginTx => Option GoError
  | selectDue _ => Except GoError QueueItem
  | claimItem _ _ => Option GoError
  | commit => Option GoError
  | rollback => Unit
  | markUnknown _ _ _ => Except GoError Nat
  | markComplete _ _ => Except GoError Nat
  | acquire => Option GoError
  | verifyManifest _ => Option GoError
  | loadEvidence _ => Except GoError (List UInt8)
  | submitAttestation _ _ => Except GoError Record
  | evaluateAttestation _ => Except GoError Record

abbrev queueCalls : Interface := ⟨QueueCall, QueueCall.Answer⟩

abbrev QueueWork (α : Type) := Program queueCalls α

def QueueCall.ask (call : QueueCall) : QueueWork call.Answer := Program.ask (P := queueCalls) call

def errQueueLeaseLost : GoError := .new "Fabric attestation queue lease lost"

/-! ## The queue -/

/-- `PostgreSQLQueue` (queue.go:35-39); `db` says whether the database is set. -/
structure PostgreSQLQueue where
  db : Bool := true
  leaseDuration : Time := 0

section
variable (q : PostgreSQLQueue)

/-- `validate` (queue.go:41-46). -/
def PostgreSQLQueue.validate : Option GoError :=
  if ¬ q.db then some (.new "Fabric queue database is required") else none

/-- Thirty seconds unless configured (queue.go:76-79). -/
def PostgreSQLQueue.lease : Time :=
  if q.leaseDuration ≤ 0 then 30000000000 else q.leaseDuration

/-- `newLeaseToken` (queue.go:183-189). -/
def newLeaseToken (read : RandomRead) : String :=
  let b := read.bytes
  if read.failed then hexEncode b
  else hexEncode (b.take 4) ++ "-" ++ hexEncode ((b.drop 4).take 2) ++ "-" ++
    hexEncode ((b.drop 6).take 2) ++ "-" ++ hexEncode ((b.drop 8).take 2) ++ "-" ++
    hexEncode ((b.drop 10).take 6)

/-- `Enqueue` (queue.go:48-70). -/
def enqueue (item : QueueItem) : QueueWork (Bool × Option GoError) :=
  match q.validate with
  | some err => return (false, some err)
  | none =>
    if item.idempotencyKey = "" ∨ item.releaseSHA = "" ∨ item.evidenceID = "" ∨
        item.payloadDigest = "" then
      return (false, some (.new ("queue idempotency key, release SHA, evidence ID, and payload " ++
        "digest are required")))
    else do
      match ← (QueueCall.insertItem item).ask with
      | .error err => return (false, some err)
      | .ok affected => return (affected = 1, none)

/-- The transaction of `Claim` once it is open (queue.go:87-118). -/
def claimTx (now : Time) : QueueWork (Except GoError QueueItem) := do
  match ← (QueueCall.selectDue now).ask with
  | .error err => return .error err
  | .ok item =>
    let token := newLeaseToken (← QueueCall.randomBytes.ask)
    let claimed : QueueItem := { item with attempts := item.attempts + 1, leaseToken := token }
    let leaseUntil := now + q.lease
    match ← (QueueCall.claimItem claimed.lease leaseUntil).ask with
    | some err => return .error err
    | none =>
      match ← QueueCall.commit.ask with
      | some err => return .error err
      | none => return .ok { claimed with state := .running, leaseUntil := leaseUntil }

/-- `Claim` (queue.go:72-129), with its deferred rollback. -/
def claim (now : Time) : QueueWork (Except GoError QueueItem) :=
  match q.validate with
  | some err => return .error err
  | none => do
    match ← QueueCall.beginTx.ask with
    | some err => return .error err
    | none =>
      let result ← claimTx q now
      QueueCall.rollback.ask
      return result

/-- What both updates make of the number of rows (queue.go:142-147, 169-174). -/
def markResult : Except GoError Nat → Option GoError
  | .error err => some err
  | .ok affected => if affected ≠ 1 then some errQueueLeaseLost else none

/-- `MarkUnknown` (queue.go:131-153). -/
def markUnknown (item : QueueItem) (next : Time) (reason : String) :
    QueueWork (Option GoError) :=
  match q.validate with
  | some err => return some err
  | none => do return markResult (← (QueueCall.markUnknown item.lease next reason).ask)

/-- `MarkComplete` (queue.go:155-181). -/
def markComplete (item : QueueItem) (attestationID : String) :
    QueueWork (Option GoError) :=
  match q.validate with
  | some err => return some err
  | none =>
    if attestationID = "" then return some (.new "attestation ID is required")
    else do return markResult (← (QueueCall.markComplete item.lease attestationID).ask)

end

end UmojaFlowOS.Attestation
