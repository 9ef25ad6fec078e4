import UmojaFlowOS.Attestation.Queue

/-!
# The worker of the attestation queue

`Worker.ProcessOne` (`internal/attestation/worker.go`) and the Fabric client it submits
through (`fabric.go`). The admission controller, the release gate, the evidence store and
the gateway answer as they like; `Run` is a loop over `ProcessOne`.
-/

namespace UmojaFlowOS.Attestation

open Crypto Go

/-! ## The Fabric client -/

/-- `releasePattern` (fabric.go:13). -/
def releasePattern (releaseSHA : String) : Bool := validLowerHex releaseSHA 40

/-- `EvidenceDigest` (fabric.go:65-68). -/
def evidenceDigest (evidence : List UInt8) : String := hexEncode (sha256 evidence)

/-- `NewRequest` (fabric.go:47-63). -/
def newRequest (releaseSHA evidenceID evidenceURI endorsementScope : String)
    (evidence : List UInt8) : Except GoError Request :=
  let releaseSHA := trimSpace releaseSHA
  let evidenceID := trimSpace evidenceID
  let evidenceURI := trimSpace evidenceURI
  let endorsementScope := trimSpace endorsementScope
  if ¬ releasePattern releaseSHA then
    .error (.new "release SHA must be 40 lowercase hexadecimal characters")
  else if evidenceID = "" ∨ evidenceURI = "" ∨ endorsementScope = "" then
    .error (.new "evidence ID, URI, and endorsement scope are required")
  else if evidence = [] then .error (.new "evidence bytes are required")
  else .ok ⟨releaseSHA, evidenceID, evidenceURI, evidence, endorsementScope⟩

/-- `Client.Attest` (fabric.go:70-86); the gateway of a client is always set. -/
def attest (req : Request) : QueueWork (Except GoError Record) :=
  if ¬ releasePattern req.releaseSHA ∨ req.evidenceID = "" ∨ req.evidence = [] then
    return .error (.new "invalid Fabric attestation request")
  else do
    let digest := evidenceDigest req.evidence
    match ← (QueueCall.submitAttestation req digest).ask with
    | .error err => return .error err
    | .ok record =>
      if record.releaseSHA ≠ req.releaseSHA ∨ record.evidenceID ≠ req.evidenceID ∨
          record.evidenceSHA256 ≠ digest then
        return .error (.new "Fabric attestation response failed binding validation")
      else return .ok record

/-- `Client.VerifyRecord` (fabric.go:88-93). -/
def verifyRecord (recordID : String) : QueueWork (Except GoError Record) :=
  (QueueCall.evaluateAttestation (trimSpace recordID)).ask

/-- `DeterministicAttestationID` (worker.go:170-173). -/
def deterministicAttestationID (releaseSHA evidenceID evidenceSHA256 : String) : String :=
  hexEncode (sha256 (bytes (releaseSHA ++ "\x00" ++ evidenceID ++ "\x00" ++ evidenceSHA256)))

/-! ## The worker -/

/-- `Worker` (worker.go:55-65), as far as `ProcessOne` reads it. -/
structure Worker where
  queue : PostgreSQLQueue := {}
  retryDelay : Time := 1

namespace Worker

variable (w : Worker)

/-- `hold` (worker.go:166-168). -/
def hold (item : QueueItem) (reason : GoError) : QueueWork (Option GoError) := do
  let now ← QueueCall.now.ask
  markUnknown w.queue item (now + w.retryDelay) reason.text

/-- `submit` (worker.go:132-152). -/
def submit (item : QueueItem) : QueueWork (Option GoError) := do
  match ← (QueueCall.loadEvidence item.evidenceURI).ask with
  | .error err => w.hold item err
  | .ok data =>
    if evidenceDigest data ≠ item.payloadDigest then
      w.hold item (.new ("evidence digest mismatch: got " ++ evidenceDigest data ++ " expected " ++
        item.payloadDigest))
    else
      match newRequest item.releaseSHA item.evidenceID item.evidenceURI item.endorsementScope
          data with
      | .error err => w.hold item err
      | .ok req =>
        match ← attest req with
        | .error err => w.hold item err
        | .ok record => markComplete w.queue item record.attestationID

/-- `reconcile` (worker.go:154-164). -/
def reconcile (item : QueueItem) : QueueWork (Option GoError) := do
  let id := deterministicAttestationID item.releaseSHA item.evidenceID item.payloadDigest
  match ← verifyRecord id with
  | .error err => w.hold item err
  | .ok record =>
    if record.releaseSHA ≠ item.releaseSHA ∨ record.evidenceID ≠ item.evidenceID ∨
        record.evidenceSHA256 ≠ item.payloadDigest then
      w.hold item (.new "Fabric reconciliation binding mismatch")
    else markComplete w.queue item record.attestationID

/-- `ProcessOne` after the claim (worker.go:118-129). -/
def processItem (item : QueueItem) : QueueWork (Bool × Option GoError) := do
  match ← QueueCall.acquire.ask with
  | some err =>
    let now ← QueueCall.now.ask
    let _ ← markUnknown w.queue item (now + w.retryDelay) err.text
    return (true, some err)
  | none =>
    match ← (QueueCall.verifyManifest item).ask with
    | some err => return (true, ← w.hold item err)
    | none =>
      if item.state = .unknown then return (true, ← w.reconcile item)
      else return (true, ← w.submit item)

/-- `ProcessOne` (worker.go:110-130). -/
def processOne : QueueWork (Bool × Option GoError) := do
  let now ← QueueCall.now.ask
  match ← claim w.queue now with
  | .error .noRows => return (false, none)
  | .error err => return (false, some err)
  | .ok item => w.processItem item

end Worker

end UmojaFlowOS.Attestation
