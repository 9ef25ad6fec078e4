import UmojaFlowOS.Multirail.UnknownStore

/-!
# The batch reconciler

`FailClosedBatchReconciler` of
`services/payment-engine/internal/provider/idem_shadow_ledger.go`: one request to
the shadow ledger for a batch of unknown states, and a decision recorded for each.
-/

namespace UmojaFlowOS.Multirail

open Crypto Go

/-- `FailClosedBatchReconciler` (lines 129-133). -/
structure BatchReconciler where
  client : Bool := true
  store : Option UnknownStore

/-- `shadowEvidenceDigest` (lines 237-245). -/
def shadowEvidenceDigest (state : UnknownState) (runID : String)
    (decision : ReconciliationDecision) (status : Status) (reason : String) : String :=
  hexEncode (sha256 (bytes (jsonObject [
    ("ID", .str state.intent.id),
    ("Key", .str state.intent.idempotencyKey),
    ("RunID", .str runID),
    ("Reason", .str reason),
    ("Decision", .str decision.text),
    ("Status", .str status.text)])))

/-- The result that both branches build for a state (lines 201-207, 222-228). -/
def shadowResult (state : UnknownState) (runID providerRef : String)
    (decision : ReconciliationDecision) (status : Status) (now : Time) (reason : String) :
    ReconciliationResult where
  intentID := state.intent.id
  idempotencyKey := state.intent.idempotencyKey
  primaryRail := state.primaryRail
  providerRef := providerRef
  decision := decision
  observedStatus := status
  settlementAllowed := false
  attempt := state.attempts
  decidedAt := now
  reason := reason
  evidenceDigest := shadowEvidenceDigest state runID decision status reason
  leaseToken := state.leaseToken

/-- What `recordAllUnknown` records for a state (lines 222-228). -/
def unknownResult (now : Time) (reason : String) (state : UnknownState) : ReconciliationResult :=
  shadowResult state "" state.providerRef .awaitingEvidence .unknown now reason

section
variable [CaseTables]

/-- The item the map holds for an intent: a later item replaces an earlier one. -/
def IdemBatchResponse.item (response : IdemBatchResponse) (id : String) : Option IdemBatchItem :=
  response.items.reverse.find? fun item => item.transactionID = id

section
variable (response : IdemBatchResponse)

def IdemBatchResponse.partial_ : Bool :=
  equalFold response.status "PARTIAL"

/-- What an item of a complete batch says (lines 186-197). -/
def IdemBatchItem.verdict (item : IdemBatchItem) : ReconciliationDecision × Status × String :=
  if toUpper item.status ∈ ["SETTLED", "POSTED", "ACCEPTED"] then
    (.providerAccepted, .settled, "Idem independently reported a conclusive shadow-ledger state; " ++
      "settlement authority remains false")
  else if toUpper item.status ∈ ["UNMATCHED", "NOT_FOUND", "FAILED_NO_EFFECT"] then
    (.confirmedNonSubmission, .failed, "Idem explicitly confirmed no matching shadow-ledger " ++
      "effect; secondary execution remains a separate authorization")
  else
    (.awaitingEvidence, .unknown, "Idem item status is not conclusive")

/-- The decision on a state (lines 177-200). -/
def IdemBatchResponse.verdict (state : UnknownState) :
    ReconciliationDecision × Status × String :=
  match response.item state.intent.id, response.partial_ with
  | some item, false => item.verdict
  | none, false => (.awaitingEvidence, .unknown,
      "Idem batch item missing or aggregate response is not complete")
  | _, true => (.awaitingEvidence, .unknown,
      "Idem returned partial batch success; unresolved item is mapped to UNKNOWN")

/-- The provider reference of a state (lines 181-184). -/
def IdemBatchResponse.reference (state : UnknownState) : String :=
  match response.item state.intent.id with
  | some item => if trimSpace item.providerRef ≠ "" then item.providerRef else state.providerRef
  | none => state.providerRef

/-- The result of the main loop for a state (lines 177-207). -/
def IdemBatchResponse.result (runID : String) (now : Time)
    (state : UnknownState) : ReconciliationResult :=
  let (decision, status, reason) := response.verdict state
  shadowResult state runID (response.reference state) decision status now reason

end

end

/-- Records one result after the other until one is refused
(lines 208-211, 229-232). -/
def recordEach (store : UnknownStore) (wrap : ReconciliationResult → GoError → GoError) :
    List ReconciliationResult → List ReconciliationResult →
      StoreWork (List ReconciliationResult × Option GoError)
  | results, [] => return (results, none)
  | results, result :: rest => do
    match ← recordDecision store result with
    | some err => return (results, some (wrap result err))
    | none => recordEach store wrap (results ++ [result]) rest

/-- `recordAllUnknown` and the error of its caller (lines 153-166). -/
def failAll (store : UnknownStore) (states : List UnknownState) (now : Time)
    (reason after : String) (failed : GoError) :
    StoreWork (List ReconciliationResult × Option GoError) := do
  let (results, recordErr) ← recordEach store (fun _ err => err) []
    (states.map (unknownResult now reason))
  match recordErr with
  | some err => return (results, some (err.inContext ("record UNKNOWN decisions after " ++ after)))
  | none => return (results, some failed)

/-- `ReconcileBatch` (lines 135-217). -/
def reconcileBatch [CaseTables] (r : BatchReconciler) (runID : String)
    (states : List UnknownState) : StoreWork (List ReconciliationResult × Option GoError) := do
  match r.store with
  | none => return ([], some (.new "client, store, run ID, and states are required"))
  | some store =>
    if ¬ r.client ∨ trimSpace runID = "" ∨ states = [] then
      return ([], some (.new "client, store, run ID, and states are required"))
    else if ∃ state ∈ states, state.intent.id = "" ∨ state.intent.idempotencyKey = "" then
      return ([], some (.new "unknown state intent ID and idempotency key are required"))
    else
      let answer ← askStore (.reconcileBatch runID (states.map fun state => state.intent.id))
      let now ← askStore .now
      match answer with
      | .error err =>
        failAll store states now "Idem batch request failed; outcome is unknown"
          "Idem batch failure" (err.inContext "idem batch reconciliation failed")
      | .ok response =>
        if response.runID ≠ runID then
          failAll store states now "Idem response reconciliation run ID mismatch"
            "run-ID mismatch" (.new "idem reconciliation run ID mismatch")
        else
          let (results, err) ← recordEach store
            (fun result err => err.inContext
              ("record Idem reconciliation decision for " ++ result.intentID))
            [] (states.map (response.result runID now))
          match err with
          | some err => return (results, some err)
          | none =>
            return (results, if response.partial_ then
              some (.new "idem batch was partial; unresolved outcomes remain UNKNOWN") else none)

end UmojaFlowOS.Multirail
