import UmojaFlowOS.Settlement.PostgresSaga

/-!
# Claims and resolutions of UNKNOWN sagas

The `UnknownSagaStore` methods of `PostgresSagaStore`
(`internal/settlement/unknown_saga_store.go`), and the system of store calls that
run concurrently against one database.
-/

namespace UmojaFlowOS.Settlement.PostgresSagaStore

open Go Interaction

/-- The loads at the end of `ClaimUnknownSagas` (lines 82-90). -/
def loadAll (tenantID : String) (loaded : List SettlementRecord) :
    List String → Sql (List SettlementRecord × Option GoError)
  | [] => return (loaded, none)
  | key :: keys => do
    let (record, err) ← load tenantID key
    if let some err := err then
      return ([], some err)
    loadAll tenantID (loaded ++ [record]) keys

/-- The claiming transaction of `ClaimUnknownSagas` (lines 49-81). -/
def claimTx (tenantID owner : String) (limit lease : Int) : Sql (Except GoError (List String)) := do
  let now ← clock
  match ← run (.claimUnknown tenantID now limit owner (now + lease)) with
  | .error err => return .error err
  | .ok keys =>
    match ← run .commit with
    | .error err => return .error err
    | .ok _ => return .ok keys

/-- `ClaimUnknownSagas` (lines 40-91). -/
def claimUnknownSagas (tenantID owner : String) (limit lease : Int) :
    Sql (List SettlementRecord × Option GoError) := do
  if trimSpace owner = "" ∨ limit ≤ 0 ∨ limit > 1000 ∨ lease ≤ 0 then
    return ([], some (.new "worker owner, bounded limit, and positive lease are required"))
  match ← withTx tenantID .error (claimTx tenantID owner limit lease) with
  | .error err => return ([], some err)
  | .ok keys => loadAll tenantID [] keys

/-- `validResolutionAuthorization` (lines 123-125). -/
def validResolutionAuthorization (a : ResolutionAuthorization) (tenantID sagaID : String)
    (decision : Decision) (now : Time) : Bool :=
  a.tenantID = tenantID && a.sagaID = sagaID && a.decision = decision &&
    trimSpace a.authorizationID ≠ "" && validLowerHex a.releaseSHA 40 &&
    validDigest a.manifestSHA256 && validDigest a.evidenceSHA256 &&
    8 ≤ (trimSpace a.reconciliationRunID).utf8ByteSize && now < a.expiresAt

/-- The transaction of `FindResolutionAuthorization` (lines 101-120). -/
def findTx (tenantID sagaID : String) (decision : Decision) :
    Sql (ResolutionAuthorization × Bool × Option GoError) := do
  let now ← clock
  match ← run (.selectAuthorization tenantID sagaID decision now) with
  | .error .noRows =>
    match ← run .commit with
    | .error err => return ({}, false, some err)
    | .ok _ => return ({}, false, none)
  | .error err => return ({}, false, some err)
  | .ok a =>
    let now ← clock
    if ¬ validResolutionAuthorization a tenantID sagaID decision now then
      return ({}, false, some .resolutionApproval)
    match ← run .commit with
    | .error err => return ({}, false, some err)
    | .ok _ => return (a, true, none)

/-- `FindResolutionAuthorization` (lines 93-121). -/
def findResolutionAuthorization (tenantID sagaID : String) (decision : Decision) :
    Sql (ResolutionAuthorization × Bool × Option GoError) := do
  if decision ≠ .commit ∧ decision ≠ .void ∧ decision ≠ .hold then
    return ({}, false, some .resolutionApproval)
  withTx tenantID (fun err => ({}, false, some err)) (findTx tenantID sagaID decision)

/-- The stage an authorization resolves to (lines 180-183). -/
def resolutionStage (decision : Decision) : ExecutionStage :=
  if decision = .commit then .settled else .held

/-- The update a resolution applies (lines 184-185). -/
def resolutionUpdate (authorization : ResolutionAuthorization) (update : SagaUpdate) : SagaUpdate :=
  { update with
    reconciliationRunID := authorization.reconciliationRunID
    reason := "authorized UNKNOWN reconciliation: " ++ authorization.decision.text }

/-- The second half of the transaction of `ResolveUnknownSaga`
(lines 180-207): the lease is held and the authorization found. -/
def resolveLocked (locked : SettlementRecord) (owner : String)
    (authorization : ResolutionAuthorization) (authorizationID : String) (update : SagaUpdate) :
    Sql (SettlementRecord × Option GoError) := do
  let next := resolutionStage authorization.decision
  let update := resolutionUpdate authorization update
  let now ← clock
  let nextRecord := recordWithUpdate locked next update now
  match ← run (.resolveSaga nextRecord locked.tenantID locked.sagaID locked.version owner) with
  | .error err => return ({}, some err)
  | .ok affected =>
    if affected ≠ 1 then
      return ({}, some .sagaConflict)
    if let some err ← insertTransitionAndOutbox nextRecord .unknown next update.reason then
      return ({}, some err)
    let now ← clock
    match ← run (.consumeAuthorization now owner locked.tenantID locked.sagaID authorizationID) with
    | .error err => return ({}, some err)
    | .ok affected =>
      if affected ≠ 1 then
        return ({}, some .resolutionApproval)
      match ← run .commit with
      | .error err => return ({}, some err)
      | .ok _ => return (nextRecord, none)

/-- The transaction of `ResolveUnknownSaga` (lines 154-207). -/
def resolveTx (current : SettlementRecord) (owner : String)
    (authorization : ResolutionAuthorization) (update : SagaUpdate) :
    Sql (SettlementRecord × Option GoError) := do
  match ← run (.selectSagaForUpdate current.tenantID current.idempotencyKey) with
  | .error err => return ({}, some err)
  | .ok locked =>
    if locked.sagaID ≠ current.sagaID ∨ locked.stage ≠ .unknown ∨
        locked.version ≠ current.version then
      return ({}, some .sagaConflict)
    let now ← clock
    match ← run (.selectAuthorizationForUpdate authorization now) with
    | .error .noRows => return ({}, some .resolutionApproval)
    | .error err => return ({}, some err)
    | .ok authorizationID =>
      match ← run (.selectLease locked.tenantID locked.sagaID) with
      | .error err => return ({}, some err)
      | .ok (leaseOwner, leased) =>
        let now ← clock
        if leaseOwner ≠ owner ∨ ¬ leased.any (now < ·) then
          return ({}, some .unknownSagaNotLeased)
        resolveLocked locked owner authorization authorizationID update

/-- `ResolveUnknownSaga` (lines 142-208). -/
def resolveUnknownSaga (current : SettlementRecord) (owner : String)
    (authorization : ResolutionAuthorization) (update : SagaUpdate) :
    Sql (SettlementRecord × Option GoError) := do
  if trimSpace owner = "" ∨ current.stage ≠ .unknown then
    return ({}, some .unknownSagaNotLeased)
  if authorization.decision ≠ .commit ∧ authorization.decision ≠ .void ∧
      authorization.decision ≠ .hold then
    return ({}, some .resolutionApproval)
  withTx current.tenantID (fun err => ({}, some err)) (resolveTx current owner authorization update)

def serve : (call : StoreCall) → Sql call.Answer
  | .reserve intent digest => reserve intent digest
  | .advance current next update => advance current next update
  | .markHeld record reason => markHeld record reason
  | .markUnknown record reason => markUnknown record reason
  | .claimUnknownSagas tenantID owner limit lease => claimUnknownSagas tenantID owner limit lease
  | .findResolutionAuthorization tenantID sagaID decision =>
    findResolutionAuthorization tenantID sagaID decision
  | .resolveUnknownSaga current owner authorization update =>
    resolveUnknownSaga current owner authorization update

/-! ## Concurrent store calls -/

@[reducible] def store : Interface where
  Call := StoreCall
  Answer := StoreCall.Answer

/-- The thread that serves one store call and returns its answer. -/
def session (call : StoreCall) : Sql (Event store) := do
  let answer ← serve call
  return ⟨call, answer⟩

/-- What else happens to the database: the server rolls back the transaction of a
caller that is gone or whose context was cancelled, and the approval service,
which alone may insert them, issues an authorization. -/
inductive StoreEvent where
  | lost (thread : Nat)
  | issued (row : AuthorizationRow)

def happens (s : StoreState) : StoreEvent → Option StoreState
  | .lost thread => some (s.close thread)
  | .issued row =>
    let db := { s.db with authorizations := s.db.authorizations ++ [row] }
    if row.consumed = none ∧ WellFormed db then some { s with db := db } else none

/-- Any number of callers, each running one store call with any arguments. -/
def postgres : Machine sql StoreCall (Event store) StoreState SqlChoice StoreEvent where
  spawn _ call := some (session call)
  exec s i call request choice := s.exec i call request choice
  env := happens

abbrev StoreConfig := Config sql StoreCall (Event store) StoreState

def emptyStore : StoreConfig := ⟨{}, []⟩

end UmojaFlowOS.Settlement.PostgresSagaStore
