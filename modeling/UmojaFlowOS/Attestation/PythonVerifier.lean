import UmojaFlowOS.Attestation.CanonicalJson

/-!
# The manifest in the release scripts

`canonical_manifest_bytes` of `scripts/infra/verify_release_manifest_signatures.py` and the
schema it validates manifests against (`assurance/release_evidence_manifest.schema.json`).
A Python string is a sequence of code points and may hold surrogates that are not part of a
pair, which `json.loads` makes of an escape such as `\ud800`; they have no UTF-8 encoding.
-/

namespace UmojaFlowOS.Attestation

open Go

/-- A code point of a Python string: a Unicode scalar value or a surrogate, counted from
U+D800. -/
inductive CodePoint where
  | scalar (c : Char)
  | lone (half : Fin 0x800)
  deriving DecidableEq

abbrev PyString := List CodePoint

/-- A string without surrogates. -/
def pyString (s : String) : PyString := s.toList.map .scalar

/-! ## Canonical bytes -/

/-- `json.encoder.ESCAPE_DCT` for the characters `json.encoder.ESCAPE` matches: the escapes
of `ensure_ascii=False`. -/
def pythonEscape : Char → List Char := escapeRune fun c => c.toNat < 0x20

def pythonRune : CodePoint → List CodePoint
  | .scalar c => (pythonEscape c).map .scalar
  | .lone half => [.lone half]

def pythonQuoted (text : PyString) : PyString :=
  .scalar '"' :: (text.flatMap pythonRune ++ [.scalar '"'])

/-- `json.dumps(…, sort_keys=True, separators=(",", ":"), ensure_ascii=False)`. -/
def pythonWriter : JsonWriter PyString CodePoint where
  char := .scalar
  key := fun key => pythonQuoted (pyString key)
  string := pythonQuoted

/-- `str.encode("utf-8")`, which refuses surrogates. -/
def encodeUtf8 : PyString → Option (List Char)
  | [] => some []
  | .scalar c :: rest => (encodeUtf8 rest).map (c :: ·)
  | .lone _ :: _ => none

/-- `canonical_manifest_bytes` (lines 46-47); `none` where
it raises `UnicodeEncodeError`. -/
def canonicalManifestBytes (manifest : ReleaseManifest PyString) : Option (List UInt8) :=
  (encodeUtf8 (manifest.tree.write pythonWriter)).map fun text => bytes (String.ofList text)

/-! ## The same manifest in Go -/

/-- A string as `json.Unmarshal` decodes it: a surrogate without its other half becomes the
replacement character. -/
def goString (text : PyString) : String :=
  String.ofList (text.map fun
    | .scalar c => c
    | .lone _ => '�')

variable {σ τ : Type}

def ReleaseManifest.map (f : σ → τ) (manifest : ReleaseManifest σ) : ReleaseManifest τ where
  releaseSHA := f manifest.releaseSHA
  environment := f manifest.environment
  createdAt := f manifest.createdAt
  artifacts := manifest.artifacts.map fun a => ⟨f a.evidenceID, f a.path, f a.sha256, f a.runID⟩
  approvals := manifest.approvals.map fun a =>
    ⟨f a.role, f a.subject, f a.releaseSHA, f a.approvedAt⟩
  worm := ⟨f manifest.worm.bucket, f manifest.worm.objectKeyPrefix, f manifest.worm.objectLockMode,
    f manifest.worm.retainUntil⟩
  reconciliation := ⟨f manifest.reconciliation.runID⟩

def ReleaseManifest.strings (manifest : ReleaseManifest σ) : List σ :=
  [manifest.releaseSHA, manifest.environment, manifest.createdAt] ++
    manifest.artifacts.flatMap (fun a => [a.evidenceID, a.path, a.sha256, a.runID]) ++
    manifest.approvals.flatMap (fun a => [a.role, a.subject, a.releaseSHA, a.approvedAt]) ++
    [manifest.worm.bucket, manifest.worm.objectKeyPrefix, manifest.worm.objectLockMode,
      manifest.worm.retainUntil, manifest.reconciliation.runID]

/-! ## The schema -/

def inClass (p : Char → Bool) : CodePoint → Bool
  | .scalar c => p c
  | .lone _ => false

/-- The end `$` of a pattern, which Python also matches before a final newline. -/
def matchesLine (p : PyString → Bool) (text : PyString) : Bool :=
  p text || (text.getLast? = some (.scalar '\n') && p text.dropLast)

def isLowerAlnum (c : Char) : Bool := ('0' ≤ c && c ≤ '9') || ('a' ≤ c && c ≤ 'z')

def isAlnum (c : Char) : Bool := isLowerAlnum c || ('A' ≤ c && c ≤ 'Z')

/-- `^[a-f0-9]{n}$`. -/
def hexPattern (n : Nat) : PyString → Bool :=
  matchesLine fun text => text.length = n && text.all (inClass isLowerHex)

/-- `^E-0[1-9]$`. -/
def evidencePattern : PyString → Bool :=
  matchesLine fun text => text.take 3 = pyString "E-0" && text.length = 4 &&
    (text.drop 3).all (inClass fun c => '1' ≤ c && c ≤ '9')

/-- `^[a-z0-9][a-z0-9.-]{1,61}[a-z0-9]$`. -/
def bucketPattern : PyString → Bool :=
  matchesLine fun text => decide (3 ≤ text.length) && decide (text.length ≤ 63) &&
    text.all (inClass fun c => isLowerAlnum c || c = '.' || c = '-') &&
    text.head?.any (inClass isLowerAlnum) && text.getLast?.any (inClass isLowerAlnum)

/-- `^[^/].*[^/]$`, where the dot matches no newline. -/
def objectKeyPattern : PyString → Bool :=
  matchesLine fun text => decide (2 ≤ text.length) && text.head? ≠ some (.scalar '/') &&
    text.getLast? ≠ some (.scalar '/') && !(text.tail.dropLast.contains (.scalar '\n'))

/-- `^[A-Za-z0-9][A-Za-z0-9._:-]{7,127}$`. -/
def runPattern : PyString → Bool :=
  matchesLine fun text => decide (8 ≤ text.length) && decide (text.length ≤ 128) &&
    text.head?.any (inClass isAlnum) &&
    text.all (inClass fun c => isAlnum c || c = '.' || c = '_' || c = ':' || c = '-')

/-- The nine evidence ids and the four roles the schema asks for. -/
def schemaEvidenceIDs : List PyString :=
  ["E-01", "E-02", "E-03", "E-04", "E-05", "E-06", "E-07", "E-08", "E-09"].map pyString

def schemaRoles : List PyString :=
  ["release_manager", "security_owner", "compliance_owner", "operations_owner"].map pyString

/-- The release manifest schema, for a manifest with exactly the fields it requires;
`dateTime` is the check of the `date-time` format. -/
def satisfiesSchema (dateTime : PyString → Bool) (manifest : ReleaseManifest PyString) : Bool :=
  hexPattern 40 manifest.releaseSHA &&
    [pyString "staging", pyString "production"].contains manifest.environment &&
    dateTime manifest.createdAt &&
    manifest.artifacts.length = 9 &&
    (manifest.artifacts.all fun a => evidencePattern a.evidenceID && a.path ≠ [] &&
      hexPattern 64 a.sha256 && a.runID ≠ []) &&
    (schemaEvidenceIDs.all fun id => manifest.artifacts.any (·.evidenceID = id)) &&
    manifest.approvals.length = 4 &&
    (manifest.approvals.all fun a => schemaRoles.contains a.role && a.subject ≠ [] &&
      hexPattern 40 a.releaseSHA && dateTime a.approvedAt) &&
    (schemaRoles.all fun role => manifest.approvals.any (·.role = role)) &&
    bucketPattern manifest.worm.bucket && objectKeyPattern manifest.worm.objectKeyPrefix &&
    [pyString "COMPLIANCE", pyString "GOVERNANCE"].contains manifest.worm.objectLockMode &&
    dateTime manifest.worm.retainUntil && runPattern manifest.reconciliation.runID

end UmojaFlowOS.Attestation
