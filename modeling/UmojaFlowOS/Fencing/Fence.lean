import UmojaFlowOS.Crypto.Sha256
import UmojaFlowOS.Go.Json
import UmojaFlowOS.Ledger.Posting

/-!
# The settlement fence

`SettlementFence` and `GuardedLedger` (`internal/reconciliation/fence.go`) over the store of
`internal/fencestore/postgres.go`. Signed commands open and fence an environment; they are
recorded in PostgreSQL, and every replica keeps a flag of its own. A guarded posting holds
a row lock on the state of its environment, the admission, while the ledger is called.

The store and the fence of a replica are always set. The inner ledger is the posting
service, which knows admissions, as `cmd/payment-engine/main.go` wires it; the branches for
ledgers that do not are left out, and so is the interface of an audit log alone.
-/

namespace UmojaFlowOS.Fencing

open Crypto Go Interaction Ledger

abbrev Time := Int

/-! ## Commands -/

/-- `FenceAction` (fence.go:20-25), a string of which the code knows two values. -/
inductive FenceAction where
  | open
  | fence
  | other (text : String)
  deriving DecidableEq

def FenceAction.text : FenceAction → String
  | .open => "OPEN"
  | fence => "FENCE"
  | other text => text

/-- The two actions the code supports (fence.go:177, postgres.go:64). -/
def FenceAction.supported : FenceAction → Bool
  | .open => true
  | fence => true
  | other _ => false

/-- A `time.Time` that was decoded from JSON, by the RFC 3339 text that `json.Marshal`
writes for it. -/
structure Stamp where
  text : String
  plain : '\x00' ∉ text.toList := by decide
  deriving DecidableEq

/-- `FenceCommand` (fence.go:27-38). -/
structure FenceCommand where
  commandID : String
  action : FenceAction
  reason : String
  environment : String
  sourceAlerts : List String
  issuedAt : Stamp
  expiresAt : Stamp
  nonce : String
  signer : String
  signature : String
  deriving DecidableEq

/-- `json.Marshal` of a slice of strings; one without elements is taken to be nil. -/
def jsonStrings (texts : List String) : String :=
  if texts = [] then "null" else "[" ++ String.intercalate "," (texts.map jsonString) ++ "]"

/-- `canonicalCommand` and `canonicalFencePayload` (postgres.go:33-36, fence.go:161-164). -/
def canonicalCommand (c : FenceCommand) : String :=
  jsonFields [("command_id", jsonString c.commandID), ("action", jsonString c.action.text),
    ("reason", jsonString c.reason), ("environment", jsonString c.environment),
    ("source_alerts", jsonStrings c.sourceAlerts), ("issued_at", jsonString c.issuedAt.text),
    ("expires_at", jsonString c.expiresAt.text), ("nonce", jsonString c.nonce),
    ("signer", jsonString c.signer), ("signature", jsonString "")]

/-- `commandHash` (postgres.go:38-45). -/
def commandHash (c : FenceCommand) : String := hexEncode (sha256 (bytes (canonicalCommand c)))

/-! ## Rows -/

/-- A row of `settlement_fence_commands` (0059), as far as it is read. -/
structure CommandRow where
  commandID : String
  commandHash : String
  action : FenceAction
  reason : String
  environment : String
  fenceVersion : Nat

/-- The row that `RecordFenceCommandContext` inserts (postgres.go:92-101). -/
def CommandRow.of (c : FenceCommand) (version : Nat) : CommandRow where
  commandID := c.commandID
  commandHash := Fencing.commandHash c
  action := c.action
  reason := c.reason
  environment := c.environment
  fenceVersion := version

/-- A row of `settlement_fence_state` (0060). -/
structure StateRow where
  environment : String
  fenced : Bool := true
  fenceVersion : Nat := 0
  reason : String := "startup fail-closed fence"
  commandID : Option String := none
  deriving DecidableEq

/-- The state a command leaves (postgres.go:125-137). -/
def CommandRow.state (row : CommandRow) : StateRow where
  environment := row.environment
  fenced := row.action = .fence
  fenceVersion := row.fenceVersion
  reason := row.reason
  commandID := some row.commandID

/-- `FenceState` (fence.go:44-50), as far as it is read. -/
structure FenceState where
  fenced : Bool
  version : Nat := 0
  reason : String

/-! ## The calls -/

/-- What the fence asks: the database, the fence of its own replica (under its mutex) and
the ledger. -/
inductive FenceCall where
  | beginTx
  | advisoryLock (environment : String)
  | insertCommand (c : FenceCommand)
  | selectCommand (commandID : String)
  | upsertState (row : StateRow)
  | selectState (environment : String)
  | commit
  | rollback
  | loadState (environment : String)
  | seen (replica : Nat) (commandID : String)
  | applyLocal (replica : Nat) (c : FenceCommand)
  | setLocal (replica : Nat) (state : FenceState)
  | readLocal (replica : Nat)
  | ledger (port : LedgerPort)

abbrev FenceCall.Answer : FenceCall → Type
  | beginTx => Option GoError
  | advisoryLock _ => Option GoError
  | insertCommand _ => Except GoError Nat
  | selectCommand _ => Except GoError CommandRow
  | upsertState _ => Option GoError
  | selectState _ => Except GoError StateRow
  | commit => Option GoError
  | rollback => Unit
  | loadState _ => Except GoError StateRow
  | seen _ _ => Bool
  | applyLocal _ _ => Unit
  | setLocal _ _ => Unit
  | readLocal _ => FenceState
  | ledger port => port.Answer

abbrev fenceCalls : Interface := ⟨FenceCall, FenceCall.Answer⟩

abbrev FenceWork (α : Type) := Program fenceCalls α

def FenceCall.ask (call : FenceCall) : FenceWork call.Answer := Program.ask (P := fenceCalls) call

/-! ## The store -/

def errReplayConflict : GoError :=
  .new "settlement fence command replay conflicts with existing command"

/-- The end of the transaction (postgres.go:143-146). -/
def commitCommand : FenceWork (Option GoError) := do
  match ← FenceCall.commit.ask with
  | some err => return some (.inContext "commit fence command/state" err)
  | none => return none

/-- The transaction of `RecordFenceCommandContext` once it is open (postgres.go:84-146). -/
def recordTx (c : FenceCommand) : FenceWork (Option GoError) := do
  match ← (FenceCall.advisoryLock c.environment).ask with
  | some err => return some (.inContext "lock fence environment" err)
  | none =>
    match ← (FenceCall.insertCommand c).ask with
    | .error .noRows =>
      match ← (FenceCall.selectCommand c.commandID).ask with
      | .error err => return some err
      | .ok existing =>
        if existing.commandHash ≠ commandHash c ∨ existing.action ≠ c.action ∨
            existing.environment ≠ c.environment then
          return some errReplayConflict
        else commitCommand
    | .error err => return some (.inContext "insert fence command" err)
    | .ok version =>
      match ← (FenceCall.upsertState (CommandRow.of c version).state).ask with
      | some err => return some (.inContext "apply durable fence state" err)
      | none => commitCommand

/-- `RecordFenceCommandContext` (postgres.go:57-147), with its deferred rollback. -/
def recordFenceCommandContext (c : FenceCommand) : FenceWork (Option GoError) :=
  if c.commandID = "" ∨ c.environment = "" ∨ c.signer = "" then
    return some (.new "command identity is required")
  else if ¬ c.action.supported then return some (.new "unsupported fence action")
  else do
    match ← FenceCall.beginTx.ask with
    | some err => return some err
    | none =>
      let result ← recordTx c
      FenceCall.rollback.ask
      return result

/-- `AcquireAdmission` (postgres.go:164-201). -/
def acquireAdmission (environment : String) : FenceWork (Except GoError AdmissionToken) :=
  if environment = "" then return .error (.new "environment is required")
  else do
    match ← FenceCall.beginTx.ask with
    | some err => return .error (.inContext "begin fence admission" err)
    | none =>
      match ← (FenceCall.selectState environment).ask with
      | .error .noRows =>
        FenceCall.rollback.ask
        return .error (.new "durable fence state is absent; settlement remains fenced")
      | .error err =>
        FenceCall.rollback.ask
        return .error (.inContext "read fence admission state" err)
      | .ok row =>
        if row.fenced ∨ row.fenceVersion = 0 then
          FenceCall.rollback.ask
          return .error (.new "settlement is durably fenced")
        else return .ok ⟨environment, UInt64.ofNat row.fenceVersion, true⟩

/-- `LoadState` (postgres.go:203-228). -/
def loadState (environment : String) : FenceWork (Except GoError FenceState) :=
  if environment = "" then return .error (.new "environment is required")
  else do
    match ← (FenceCall.loadState environment).ask with
    | .error .noRows => return .ok { fenced := true, reason := "durable fence state is absent" }
    | .error err => return .error (.inContext "load durable fence state" err)
    | .ok row => return .ok ⟨row.fenced, row.fenceVersion, row.reason⟩

/-! ## The fence of a replica -/

/-- What `ApplyContext` asks of `time`, `base64` and `ed25519`. -/
structure FenceLibrary where
  instant : Stamp → Time
  base64 : String → Except GoError (List UInt8)
  verify : (verifier message signature : List UInt8) → Bool

/-- `SettlementFence` (fence.go:66-76), as far as it does not change: its replica, its
environment, whether it has a durable store, and the key it verifies commands with. A fence
with a store has an environment (fence.go:95-97). -/
structure SettlementFence where
  replica : Nat
  environment : String
  durable : Bool := true
  verifier : List UInt8
  named : durable = true → environment ≠ "" := by decide

namespace SettlementFence

variable (f : SettlementFence)

/-- `CheckContext` (fence.go:139-159). -/
def checkContext : FenceWork (Option GoError) :=
  if f.durable then do
    match ← loadState f.environment with
    | .error err =>
      (FenceCall.setLocal f.replica
        { fenced := true, reason := "durable fence state unavailable" }).ask
      return some (.inContext "settlement fence state unavailable" err)
    | .ok state =>
      (FenceCall.setLocal f.replica state).ask
      if state.fenced then return some (.new ("settlement fenced: " ++ state.reason))
      else return none
  else do
    let state ← (FenceCall.readLocal f.replica).ask
    if state.fenced then return some (.new ("settlement fenced: " ++ state.reason))
    else return none

/-- The checks of `ApplyContext` before it looks at what it has seen (fence.go:174-200). -/
def checkCommand (lib : FenceLibrary) (c : FenceCommand) (now : Time) : Option GoError :=
  if c.commandID = "" ∨ c.reason = "" ∨ c.environment = "" ∨ c.nonce = "" ∨ c.signer = "" then
    some (.new "fence command identity, reason, environment, nonce, and signer are required")
  else if ¬ c.action.supported then some (.new "unsupported fence action")
  else if f.environment ≠ "" ∧ c.environment ≠ f.environment then
    some (.new "fence command environment does not match payment-engine environment")
  else if ¬ now < lib.instant c.expiresAt ∨ now < lib.instant c.issuedAt then
    some (.new "fence command is outside its validity window")
  else if 900000000000 < lib.instant c.expiresAt - lib.instant c.issuedAt then
    some (.new "fence command validity window exceeds 15 minutes")
  else if c.sourceAlerts = [] then some (.new "source alerts are required")
  else
    match lib.base64 c.signature with
    | .error _ => some (.new "invalid fence command signature")
    | .ok sig =>
      if sig.length ≠ 64 ∨ ¬ lib.verify f.verifier (bytes (canonicalCommand c)) sig then
        some (.new "invalid fence command signature")
      else none

/-- `ApplyContext` (fence.go:170-231). -/
def applyContext (lib : FenceLibrary) (c : FenceCommand) (now : Time) :
    FenceWork (Option GoError) :=
  match f.checkCommand lib c now with
  | some err => return some err
  | none => do
    if ← (FenceCall.seen f.replica c.commandID).ask then return none
    if f.durable then
      if let some err ← recordFenceCommandContext c then
        return some (.inContext "durable fence command failed" err)
    (FenceCall.applyLocal f.replica c).ask
    return none

end SettlementFence

/-! ## The guarded ledger -/

/-- Ledger code, run by a guarded ledger. -/
def onLedger {α : Type} (code : LedgerCode α) : FenceWork α :=
  code.link fun port => (FenceCall.ledger port).ask

/-- `validAdmissionToken` (posting.go:121-126). -/
def validAdmissionToken (token : AdmissionToken) : Option GoError :=
  if token.environment = "" ∨ token.version = 0 ∨ token.release = false then
    some (.new "valid durable settlement admission token is required")
  else none

inductive GuardedOperation where
  | confirm
  | prepare
  | commit
  | void
  deriving DecidableEq

/-- `GuardedLedger` (fence.go:233-236). -/
structure GuardedLedger where
  fence : SettlementFence
  inner : PostingService

namespace GuardedLedger

variable [LedgerLibrary] (g : GuardedLedger)

section
variable (operation : GuardedOperation)

section
variable (req : PostingRequest)

def operate : LedgerCode Posting :=
  match operation with
  | .confirm => g.inner.postConfirmedTransfer req
  | .prepare => g.inner.postPendingTransfer req
  | .commit => g.inner.commitPendingTransfer req
  | .void => g.inner.voidPendingTransfer req

/-- The operation with an admission (posting.go:132-158). -/
def operateWithAdmission
    (token : AdmissionToken) : LedgerCode Posting :=
  match validAdmissionToken token with
  | some err => return ({}, some err)
  | none => g.operate operation req

/-- `PostConfirmedTransfer` and `postPendingOperation` (fence.go:254-285, 316-373). -/
def post : FenceWork Posting :=
  if g.fence.durable then do
    match ← acquireAdmission g.fence.environment with
    | .error err =>
      (FenceCall.setLocal g.fence.replica
        { fenced := true, reason := "durable admission unavailable" }).ask
      return ({}, some (.inContext "settlement admission unavailable" err))
    | .ok token =>
      let (fact, postErr) ← onLedger (g.operateWithAdmission operation req token)
      let releaseErr ← FenceCall.commit.ask
      match postErr, releaseErr with
      | some err, _ => return (fact, some err)
      | none, some err => return (fact, some (.inContext "release settlement admission" err))
      | none, none => return (fact, none)
  else do
    match ← g.fence.checkContext with
    | some err => return ({}, some err)
    | none => onLedger (g.operate operation req)

end

end

/-- `LookupTransfer` (fence.go:290-302). -/
def lookupTransfer (id : UInt64) : FenceWork (TransferObservation × Option GoError) := do
  match ← g.fence.checkContext with
  | some err => return ({}, some err)
  | none => onLedger (g.inner.lookupTransfer id)

end GuardedLedger

end UmojaFlowOS.Fencing
