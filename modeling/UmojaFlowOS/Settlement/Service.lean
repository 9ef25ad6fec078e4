import UmojaFlowOS.Settlement.AllRails
import UmojaFlowOS.Settlement.TigerBeetleSagaLedger
import UmojaFlowOS.Settlement.UnknownSagaReconciler
import UmojaFlowOS.Settlement.UnknownSagaStore

/-!
# What the ledger code is answered

One TigerBeetle cluster and the account bindings. A ledger call runs as the saga
ledger's own code, one TigerBeetle or PostgreSQL request at a time.
-/

namespace UmojaFlowOS.Settlement

open Ledger

/-- What is left open when the ledger code makes a call. `replies` is the regular
answer, with the name of the status in case TigerBeetle refuses a transfer. -/
inductive LedgerChoice where
  | replies (name : String)
  | reads (time : Time)
  | fails (err : GoError)
  | refuses (name : String)
  | loses (err : GoError)

structure LedgerState where
  cluster : Tb.Cluster := {}
  bindings : AccountBindings := {}

def emptyLedger : LedgerState := {}

/-- One call of the ledger code. A batch may be applied and its outcome lost, and
TigerBeetle may refuse a batch for reasons of its own. -/
def LedgerState.exec (s : LedgerState) :
    (port : LedgerPort) → LedgerChoice → Option (port.Answer × LedgerState)
  | .now, .reads time => some (time, s)
  | .ctxErr, .replies _ => some (none, s)
  | .ctxErr, .fails err => some (some err, s)
  | .beginReadOnly, .replies _ => some (none, s)
  | .beginReadOnly, .fails err => some (some err, s)
  | .bindTenant _, .replies _ => some (none, s)
  | .bindTenant _, .fails err => some (some err, s)
  | .selectBinding tenantID direction asset fiat corridorID, .replies _ =>
    some (s.bindings.select tenantID direction asset fiat corridorID, s)
  | .selectBinding _ _ _ _ _, .fails err => some (.error err, s)
  | .commitReadOnly, .replies _ => some (none, s)
  | .commitReadOnly, .fails err => some (some err, s)
  | .createTransfers batch, .replies name =>
    let (statuses, cluster) := s.cluster.createAll name batch
    some (.ok statuses, { s with cluster := cluster })
  | .createTransfers batch, .refuses name => some (.ok (batch.map fun _ => .refused name), s)
  | .createTransfers _, .fails err => some (.error err, s)
  | .createTransfers batch, .loses err =>
    some (.error err, { s with cluster := (s.cluster.createAll "" batch).2 })
  | .lookupTransfers id, .replies _ => some (.ok (s.cluster.find id).toList, s)
  | .lookupTransfers _, .fails err => some (.error err, s)
  | .projectPostedTransfer _, .replies _ => some (none, s)
  | .projectPostedTransfer _, .fails err => some (some err, s)
  | .writeLedgerEvent _, .replies _ => some (none, s)
  | .writeLedgerEvent _, .fails err => some (some err, s)
  | _, _ => none

end UmojaFlowOS.Settlement
