import UmojaFlowOS.Go.Json

/-!
# The release manifest and its canonical JSON

The manifest of `internal/attestation/release_gate.go` and `canonicalJSON`, over which its
approvals are signed. `canonicalJSON` marshals the struct, decodes the text into a tree of
maps and slices and writes that tree with sorted keys; marshalling and decoding give back
the strings of the struct, so the tree is built from the struct directly. A manifest holds
no numbers, and a missing array (`null` in the canonical text) has too few members for
everything else the gate asks.

The records are generic in the type of their strings: the verifier of the release scripts
reads the same files with the strings of another language.
-/

namespace UmojaFlowOS.Attestation

open Go

/-- `releaseArtifact` (lines 41-46). -/
structure ReleaseArtifact (σ : Type) where
  evidenceID : σ
  path : σ
  sha256 : σ
  runID : σ
  deriving DecidableEq

/-- `releaseApproval` (lines 47-52). -/
structure ReleaseApproval (σ : Type) where
  role : σ
  subject : σ
  releaseSHA : σ
  approvedAt : σ
  deriving DecidableEq

/-- `releaseWorm` (lines 53-58). -/
structure ReleaseWorm (σ : Type) where
  bucket : σ
  objectKeyPrefix : σ
  objectLockMode : σ
  retainUntil : σ

/-- `releaseReconciliation` (lines 59-61). -/
structure ReleaseReconciliation (σ : Type) where
  runID : σ

/-- `releaseManifest` (lines 32-40). -/
structure ReleaseManifest (σ : Type) where
  releaseSHA : σ
  environment : σ
  createdAt : σ
  artifacts : List (ReleaseArtifact σ)
  approvals : List (ReleaseApproval σ)
  worm : ReleaseWorm σ
  reconciliation : ReleaseReconciliation σ

/-! ## JSON values -/

inductive Json (σ : Type) where
  | str (text : σ)
  | arr (items : List (Json σ))
  | obj (members : List (String × Json σ))

variable {σ τ : Type}

def ReleaseArtifact.tree (artifact : ReleaseArtifact σ) : Json σ :=
  .obj [("evidence_id", .str artifact.evidenceID), ("path", .str artifact.path),
    ("sha256", .str artifact.sha256), ("run_id", .str artifact.runID)]

def ReleaseApproval.tree (approval : ReleaseApproval σ) : Json σ :=
  .obj [("role", .str approval.role), ("subject", .str approval.subject),
    ("release_sha", .str approval.releaseSHA), ("approved_at", .str approval.approvedAt)]

def ReleaseWorm.tree (worm : ReleaseWorm σ) : Json σ :=
  .obj [("bucket", .str worm.bucket), ("object_key_prefix", .str worm.objectKeyPrefix),
    ("object_lock_mode", .str worm.objectLockMode), ("retain_until", .str worm.retainUntil)]

def ReleaseReconciliation.tree (reconciliation : ReleaseReconciliation σ) : Json σ :=
  .obj [("run_id", .str reconciliation.runID)]

/-- The manifest as a JSON value, under the field names of the struct tags. -/
def ReleaseManifest.tree (manifest : ReleaseManifest σ) : Json σ :=
  .obj [("release_sha", .str manifest.releaseSHA), ("environment", .str manifest.environment),
    ("created_at", .str manifest.createdAt),
    ("artifacts", .arr (manifest.artifacts.map ReleaseArtifact.tree)),
    ("approvals", .arr (manifest.approvals.map ReleaseApproval.tree)),
    ("worm", manifest.worm.tree), ("reconciliation", manifest.reconciliation.tree)]

/-! ## Writing with sorted keys -/

/-- How a serialiser writes a character of the syntax, a key and a string. -/
structure JsonWriter (σ τ : Type) where
  char : Char → τ
  key : String → List τ
  string : σ → List τ

/-- One step of the insertion sort of keys (lines 232-236). -/
def insertMember (member : String × List τ) : List (String × List τ) → List (String × List τ)
  | [] => [member]
  | first :: rest =>
    if member.1 < first.1 then member :: first :: rest else first :: insertMember member rest

def sortMembers (members : List (String × List τ)) : List (String × List τ) :=
  members.foldl (fun sorted member => insertMember member sorted) []

mutual

/-- A JSON value without white space and with the keys of every object sorted: what both
`marshalCanonical` (lines 225-269) and `json.dumps` with `sort_keys` write. -/
def Json.write (w : JsonWriter σ τ) : Json σ → List τ
  | .str text => w.string text
  | .arr items => w.char '[' :: ([w.char ','].intercalate (writeItems w items) ++ [w.char ']'])
  | .obj members =>
    w.char '\x7b' :: ([w.char ','].intercalate ((sortMembers (writeMembers w members)).map
      fun member => w.key member.1 ++ w.char ':' :: member.2) ++ [w.char '\x7d'])

def writeItems (w : JsonWriter σ τ) : List (Json σ) → List (List τ)
  | [] => []
  | item :: items => item.write w :: writeItems w items

def writeMembers (w : JsonWriter σ τ) : List (String × Json σ) → List (String × List τ)
  | [] => []
  | (key, value) :: members => (key, value.write w) :: writeMembers w members

end

def quoted (text : List Char) : List Char := '"' :: (text.flatMap jsonRune ++ ['"'])

/-- `json.Marshal` for the keys and strings of a tree. -/
def goWriter : JsonWriter String Char where
  char := id
  key := fun key => quoted key.toList
  string := fun text => quoted text.toList

/-- `marshalCanonical` (lines 225-269). -/
def marshalCanonical (value : Json String) : List UInt8 :=
  bytes (String.ofList (value.write goWriter))

/-- `canonicalJSON` of a manifest (lines 213-223). -/
def canonicalJSON (manifest : ReleaseManifest String) : List UInt8 :=
  marshalCanonical manifest.tree

example : String.ofList ((Json.obj [("b", .str "<"), ("a", .arr [.str "x", .str "y"])]).write goWriter) =
    "\x7b\"a\":[\"x\",\"y\"],\"b\":\"\\u003c\"\x7d" := by decide

end UmojaFlowOS.Attestation
