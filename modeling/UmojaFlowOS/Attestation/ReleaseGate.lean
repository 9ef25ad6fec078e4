import UmojaFlowOS.Attestation.CanonicalJson
import UmojaFlowOS.Attestation.Queue
import UmojaFlowOS.Go.Path

/-!
# The release manifest gate

`ReleaseManifestGate.Verify` (`internal/attestation/release_gate.go`), which the worker of
the attestation queue asks before it submits evidence: the signed manifest of the release
on disk, its four detached approvals and the artifact the item is about. The decoders, the
clock, the signature check and the file system answer as they like.
-/

namespace UmojaFlowOS.Attestation

open Crypto Go

/-- `ErrReleaseManifestGate` (line 19). -/
def errReleaseManifestGate : GoError := .new "signed release manifest prerequisite is not satisfied"

/-- `requiredApprovalRoles` (lines 21-23), in the order they are listed. -/
def requiredApprovalRoles : List String :=
  ["release_manager", "security_owner", "compliance_owner", "operations_owner"]

/-- `approvalSidecar` (lines 62-70). -/
structure ApprovalSidecar where
  role : String
  subject : String
  releaseSHA : String
  manifestSHA256 : String
  algorithm : String
  publicKey : String
  signature : String

/-! ## What the gate is given -/

inductive Node where
  | file (data : List UInt8)
  | directory
  | failing (err : GoError)

abbrev FileTree := String → Node

def readFile (files : FileTree) (path : String) : Except GoError (List UInt8) :=
  match files path with
  | .file data => .ok data
  | .directory => .error (.new ("read " ++ path ++ ": is a directory"))
  | .failing err => .error err

/-- The library functions the gate calls: `json.Unmarshal` into its two records,
`base64.StdEncoding`, `time.Parse(time.RFC3339, ·)` and `ed25519.Verify`. -/
structure GateLibrary where
  manifest : List UInt8 → Except GoError (ReleaseManifest String)
  sidecar : List UInt8 → Except GoError ApprovalSidecar
  base64 : String → Except GoError (List UInt8)
  parseTime : String → Except GoError Time
  verify : (publicKey message signature : List UInt8) → Bool

/-- `ReleaseManifestGate` (lines 25-30). -/
structure ReleaseManifestGate where
  manifestPath : String
  signaturesDir : String
  environment : String
  wormBucket : String

/-- `fmt.Errorf("%w: …", ErrReleaseManifestGate)`. -/
def refusal (text : String) : GoError := .wrap "" errReleaseManifestGate (": " ++ text)

namespace ReleaseManifestGate

variable (lib : GateLibrary) (gate : ReleaseManifestGate) (files : FileTree)

/-! ## The manifest -/

/-- The first check of `readAndValidateManifest` (line 130). -/
def releaseBound (item : QueueItem) (manifest : ReleaseManifest String) : Bool :=
  validLowerHex manifest.releaseSHA 40 && manifest.environment = gate.environment &&
    manifest.releaseSHA = item.releaseSHA && decide (9 ≤ manifest.artifacts.length) &&
    manifest.approvals.length = 4

/-- The check of the write-once storage (line 136). -/
def wormBound (worm : ReleaseWorm String) : Bool :=
  worm.bucket = gate.wormBucket && worm.objectKeyPrefix ≠ "" &&
    !hasPrefix worm.objectKeyPrefix "/" && !contains worm.objectKeyPrefix ".." &&
    (worm.objectLockMode = "COMPLIANCE" || worm.objectLockMode = "GOVERNANCE")

/-- What every artifact must be (line 148), apart from its id being new. -/
def artifactFine (artifact : ReleaseArtifact String) : Bool :=
  hasPrefix artifact.evidenceID "E-0" && validLowerHex artifact.sha256 64 && artifact.path ≠ "" &&
    !isAbs artifact.path && clean artifact.path = artifact.path && !hasPrefix artifact.path ".."

/-- The loop over the artifacts (lines 146-152): the ids seen, or `none` at the
first artifact it refuses. -/
def seenArtifacts : List String → List (ReleaseArtifact String) → Option (List String)
  | seen, [] => some seen
  | seen, artifact :: artifacts =>
    if !artifactFine artifact || seen.contains artifact.evidenceID then none
    else seenArtifacts (artifact.evidenceID :: seen) artifacts

/-- `fmt.Sprintf("E-%02d", i)` for 1 ≤ i ≤ 9 (lines 153-154). -/
def evidenceIDs : List String :=
  ["E-01", "E-02", "E-03", "E-04", "E-05", "E-06", "E-07", "E-08", "E-09"]

/-- The checks of `readAndValidateManifest` on a decoded manifest (lines 130-157). -/
def validateManifest (now : Time) (item : QueueItem) (manifest : ReleaseManifest String) :
    Option GoError :=
  if !gate.releaseBound item manifest then
    some (refusal "manifest release, environment, artifact, or approval constraints failed")
  else
    match lib.parseTime manifest.createdAt with
    | .error _ => some (refusal "invalid created_at")
    | .ok _ =>
      if !gate.wormBound manifest.worm then some (refusal "WORM binding failed")
      else
        match lib.parseTime manifest.worm.retainUntil with
        | .error _ => some (refusal "WORM retention timestamp is invalid or expired")
        | .ok retainUntil =>
          if ¬ now < retainUntil then
            some (refusal "WORM retention timestamp is invalid or expired")
          else if manifest.reconciliation.runID.utf8ByteSize < 8 then
            some (refusal "reconciliation run ID is missing or invalid")
          else
            match seenArtifacts [] manifest.artifacts with
            | none => some (refusal "invalid or duplicate artifact")
            | some seen =>
              (evidenceIDs.find? fun id => !seen.contains id).map fun id =>
                refusal ("missing " ++ id ++ " artifact")

/-- `readAndValidateManifest` (lines 117-159). -/
def readAndValidateManifest (now : Time) (item : QueueItem) :
    Except GoError (List UInt8 × ReleaseManifest String) :=
  match readFile files gate.manifestPath with
  | .error err => .error (refusal ("read manifest: " ++ err.text))
  | .ok data =>
    match lib.manifest data with
    | .error err => .error (refusal ("malformed manifest: " ++ err.text))
    | .ok manifest =>
      match gate.validateManifest lib now item manifest with
      | some err => .error err
      | none => .ok (canonicalJSON manifest, manifest)

/-! ## The approvals -/

/-- The file of a role's approval (line 190). -/
def sidecarPath (role : String) : String := join gate.signaturesDir (role ++ ".json")

/-- What an approval signs (lines 203-206). -/
def payload (canonical : List UInt8) (approval : ReleaseApproval String)
    (manifest : ReleaseManifest String) : List UInt8 :=
  canonical ++ bytes "\n" ++ bytes approval.role ++ bytes "\n" ++ bytes approval.subject ++
    bytes "\n" ++ bytes manifest.releaseSHA

/-- `verifyApprovalSidecar` (lines 189-211). -/
def verifyApprovalSidecar (manifest : ReleaseManifest String) (canonical : List UInt8)
    (manifestDigest : String) (approval : ReleaseApproval String) : Option GoError :=
  match readFile files (gate.sidecarPath approval.role) with
  | .error _ => some (.new "missing signature sidecar")
  | .ok sidecarData =>
    match lib.sidecar sidecarData with
    | .error _ => some (.new "invalid sidecar binding")
    | .ok sidecar =>
      if sidecar.role ≠ approval.role ∨ sidecar.subject ≠ approval.subject ∨
          sidecar.releaseSHA ≠ manifest.releaseSHA ∨ sidecar.manifestSHA256 ≠ manifestDigest ∨
          sidecar.algorithm ≠ "Ed25519" then
        some (.new "invalid sidecar binding")
      else
        match lib.base64 sidecar.publicKey, lib.base64 sidecar.signature with
        | .ok pub, .ok sig =>
          if pub.length ≠ 32 ∨ sig.length ≠ 64 then some (.new "invalid signature encoding")
          else if !lib.verify pub (payload canonical approval manifest) sig then
            some (.new "signature verification failed")
          else none
        | _, _ => some (.new "invalid signature encoding")

/-- The accumulators of `verifyApprovals` (lines 162-163). -/
structure Tally where
  seenRoles : List String := []
  seenSubjects : List String := []
  failures : List String := []

/-- The first check of an approval, without what was seen before (line 165). -/
def approvalBound (manifest : ReleaseManifest String) (approval : ReleaseApproval String) : Bool :=
  requiredApprovalRoles.contains approval.role && approval.subject ≠ "" &&
    approval.releaseSHA = manifest.releaseSHA

section
variable (check : ReleaseApproval String → Option GoError)

/-- One approval of `verifyApprovals` (lines 164-177); `check` is the check of its
sidecar. -/
def tallyApproval
    (manifest : ReleaseManifest String) (tally : Tally) (approval : ReleaseApproval String) : Tally :=
  if !approvalBound manifest approval || tally.seenRoles.contains approval.role ||
      tally.seenSubjects.contains approval.subject then
    { tally with failures := tally.failures ++
        [approval.role ++ ": approval role, subject, or release binding failed"] }
  else
    match lib.parseTime approval.approvedAt with
    | .error _ => { tally with failures := tally.failures ++
        [approval.role ++ ": invalid approval timestamp"] }
    | .ok _ =>
      { seenRoles := approval.role :: tally.seenRoles
        seenSubjects := approval.subject :: tally.seenSubjects
        failures := tally.failures ++
          (check approval).toList.map fun err => approval.role ++ ": " ++ err.text }

/-- `verifyApprovals` (lines 161-187). -/
def verifyApprovals
    (manifest : ReleaseManifest String) : Option GoError :=
  let tally := manifest.approvals.foldl (tallyApproval lib check manifest) {}
  let failures := tally.failures ++
    (requiredApprovalRoles.filter fun role => !tally.seenRoles.contains role).map fun role =>
      role ++ ": missing approval"
  if failures ≠ [] then
    some (refusal ("detached approval verification failed: " ++ String.intercalate "; " failures))
  else none

end

/-! ## The gate -/

/-- The file of an artifact (line 106). -/
def artifactPath (artifact : ReleaseArtifact String) : String :=
  join (dir gate.manifestPath) (clean artifact.path)

/-- The end of `Verify`: the artifact of the item (lines 96-114). -/
def verifyArtifact (item : QueueItem) (manifest : ReleaseManifest String) : Option GoError :=
  match manifest.artifacts.find? (·.evidenceID = item.evidenceID) with
  | none => some (refusal ("manifest artifact binding mismatch for " ++ item.evidenceID))
  | some artifact =>
    if artifact.sha256 ≠ item.payloadDigest then
      some (refusal ("manifest artifact binding mismatch for " ++ item.evidenceID))
    else
      match readFile files (gate.artifactPath artifact) with
      | .error err => some (refusal ("read artifact " ++ item.evidenceID ++ ": " ++ err.text))
      | .ok data =>
        if hexEncode (sha256 data) ≠ artifact.sha256 then
          some (refusal ("artifact hash mismatch for " ++ item.evidenceID))
        else none

/-- `Verify` of a configured gate (lines 88-114). -/
def verifyItem (now : Time) (item : QueueItem) : Option GoError :=
  match gate.readAndValidateManifest lib files now item with
  | .error err => some err
  | .ok (canonical, manifest) =>
    match verifyApprovals lib (gate.verifyApprovalSidecar lib files manifest canonical
        (hexEncode (sha256 canonical))) manifest with
    | some err => some err
    | none => gate.verifyArtifact files item manifest

end ReleaseManifestGate

/-- `Verify` (lines 79-115); `ctxErr` is the error of the context. -/
def verifyRelease (lib : GateLibrary) (gate : Option ReleaseManifestGate) (files : FileTree)
    (now : Time) (ctxErr : Option GoError) (item : QueueItem) : Option GoError :=
  match gate with
  | none => some (refusal "gate is not configured")
  | some gate =>
    match ctxErr with
    | some err => some err
    | none => gate.verifyItem lib files now item

end UmojaFlowOS.Attestation
