import UmojaFlowOS.Attestation.ReleaseGate
import UmojaFlowOS.Go.Base64
import Mathlib.Data.List.Perm.Subperm

/-!
# What the release gate accepts

Each loop of `ReleaseManifestGate.Verify` is given a lemma that says what holds when it
finds nothing to refuse.
-/

namespace UmojaFlowOS.Attestation

open Crypto Go

namespace ReleaseManifestGate

variable {lib : GateLibrary} {gate : ReleaseManifestGate} {files : FileTree} {now : Time}
  {item : QueueItem} {manifest : ReleaseManifest String}

/-! ## The manifest -/

/-- The loop over the artifacts: all fine, and no evidence id twice. -/
theorem seenArtifacts_spec :
    ∀ {seen result : List String}, seenArtifacts seen artifacts = some result → seen.Nodup →
      (∀ artifact ∈ artifacts, artifactFine artifact = true) ∧
      result = (artifacts.map (·.evidenceID)).reverse ++ seen ∧ result.Nodup := by
  induction artifacts with
  | nil =>
    intro seen result done fresh
    cases done
    exact ⟨nofun, rfl, fresh⟩
  | cons artifact artifacts ih =>
    intro seen result done fresh
    rw [seenArtifacts] at done
    split_ifs at done with refused
    rw [Bool.or_eq_true, not_or, Bool.not_eq_true', Bool.not_eq_false, List.contains_iff_mem] at refused
    obtain ⟨fine, new⟩ := refused
    obtain ⟨rest, ids, distinct⟩ := ih done (List.nodup_cons.mpr ⟨new, fresh⟩)
    refine ⟨?_, ?_, distinct⟩
    · intro other present
      rcases List.mem_cons.mp present with rfl | later
      · exact fine
      · exact rest other later
    · rw [ids, List.map_cons, List.reverse_cons, List.append_assoc]
      rfl

/-- What `readAndValidateManifest` has checked of a manifest it returns. -/
structure Validated (lib : GateLibrary) (gate : ReleaseManifestGate) (now : Time)
    (item : QueueItem) (manifest : ReleaseManifest String) : Prop where
  release : gate.releaseBound item manifest = true
  worm : gate.wormBound manifest.worm = true
  retained : ∃ retainUntil, lib.parseTime manifest.worm.retainUntil = .ok retainUntil ∧
    now < retainUntil
  fine : ∀ artifact ∈ manifest.artifacts, artifactFine artifact = true
  distinct : (manifest.artifacts.map (·.evidenceID)).Nodup
  complete : ∀ id ∈ evidenceIDs, id ∈ manifest.artifacts.map (·.evidenceID)

theorem validated_of_validateManifest
    (passed : gate.validateManifest lib now item manifest = none) :
    Validated lib gate now item manifest := by
  unfold validateManifest at passed
  split at passed
  · cases passed
  rename_i unbound
  split at passed
  · cases passed
  split at passed
  · cases passed
  rename_i loose
  split at passed
  · cases passed
  rename_i retainUntil until_
  split at passed
  · cases passed
  rename_i expired
  split at passed
  · cases passed
  split at passed
  · cases passed
  rename_i seen loop
  rw [Option.map_eq_none_iff, List.find?_eq_none] at passed
  obtain ⟨fine, ids, distinct⟩ := seenArtifacts_spec loop List.nodup_nil
  rw [List.append_nil] at ids
  subst ids
  refine ⟨by simpa using unbound, by simpa using loose, ⟨retainUntil, until_, not_not.mp expired⟩,
    fine, (List.reverse_perm _).nodup_iff.mp distinct, ?_⟩
  intro id listed
  have present := passed id listed
  simpa using present

theorem file_of_readFile (done : readFile files path = .ok data) : files path = .file data := by
  unfold readFile at done
  split at done
  · rename_i found
    cases done
    exact found
  · cases done
  · cases done

theorem validated_of_read
    (done : gate.readAndValidateManifest lib files now item = .ok (canonical, manifest)) :
    canonical = canonicalJSON manifest ∧ Validated lib gate now item manifest ∧
      ∃ data, files gate.manifestPath = .file data ∧ lib.manifest data = .ok manifest := by
  unfold readAndValidateManifest at done
  split at done
  · cases done
  rename_i data read
  split at done
  · cases done
  rename_i decoded parsed
  split at done
  · cases done
  rename_i passed
  obtain ⟨rfl, rfl⟩ := Prod.mk.inj (Except.ok.inj done)
  exact ⟨rfl, validated_of_validateManifest passed, data, file_of_readFile read, parsed⟩

theorem readAndValidateManifest_eq_ok (read : readFile files gate.manifestPath = .ok data)
    (decoded : lib.manifest data = .ok manifest)
    (passed : gate.validateManifest lib now item manifest = none) :
    gate.readAndValidateManifest lib files now item = .ok (canonicalJSON manifest, manifest) := by
  rw [readAndValidateManifest, read]
  simp only [decoded, passed]

theorem readAndValidateManifest_congr (same : other gate.manifestPath = files gate.manifestPath) :
    gate.readAndValidateManifest lib other now item =
      gate.readAndValidateManifest lib files now item := by
  rw [readAndValidateManifest, readAndValidateManifest, readFile, readFile, same]

/-! ## The approvals -/

section Approvals

variable {check : ReleaseApproval String → Option GoError}

def Counted (lib : GateLibrary) (manifest : ReleaseManifest String) (roles subjects : List String)
    (approval : ReleaseApproval String) : Prop :=
  approvalBound manifest approval = true ∧ approval.role ∉ roles ∧ approval.subject ∉ subjects ∧
    ∃ time, lib.parseTime approval.approvedAt = .ok time

/-- The approvals the loop has nothing against, after the given roles and subjects. -/
def Undisputed (lib : GateLibrary) (check : ReleaseApproval String → Option GoError)
    (manifest : ReleaseManifest String) :
    List String → List String → List (ReleaseApproval String) → Prop
  | _, _, [] => True
  | roles, subjects, approval :: approvals =>
    Counted lib manifest roles subjects approval ∧ check approval = none ∧
      Undisputed lib check manifest (approval.role :: roles) (approval.subject :: subjects) approvals

theorem tallyApproval_of_counted
    (counted : Counted lib manifest tally.seenRoles tally.seenSubjects approval) :
    tallyApproval lib check manifest tally approval =
      { seenRoles := approval.role :: tally.seenRoles
        seenSubjects := approval.subject :: tally.seenSubjects
        failures := tally.failures ++
          (check approval).toList.map fun err => approval.role ++ ": " ++ err.text } := by
  obtain ⟨bound, role, subject, time, parsed⟩ := counted
  rw [tallyApproval, if_neg (by simp [bound, role, subject]), parsed]

theorem failures_of_not_counted
    (refused : ¬ Counted lib manifest tally.seenRoles tally.seenSubjects approval) :
    (tallyApproval lib check manifest tally approval).failures ≠ [] := by
  unfold tallyApproval
  split
  · simp
  rename_i fine
  rw [Bool.or_eq_true, Bool.or_eq_true, not_or, not_or, Bool.not_eq_true', Bool.not_eq_false,
    List.contains_iff_mem, List.contains_iff_mem] at fine
  obtain ⟨⟨bound, role⟩, subject⟩ := fine
  split
  · simp
  · rename_i time parsed
    exact absurd ⟨bound, role, subject, time, parsed⟩ refused

variable {approvals : List (ReleaseApproval String)}

theorem failures_foldl :
    ∀ {tally : Tally},
      (approvals.foldl (tallyApproval lib check manifest) tally).failures = [] ↔
        tally.failures = [] ∧
          Undisputed lib check manifest tally.seenRoles tally.seenSubjects approvals := by
  induction approvals with
  | nil => exact (and_iff_left trivial).symm
  | cons approval approvals ih =>
    intro tally
    rw [List.foldl_cons, ih]
    by_cases counted : Counted lib manifest tally.seenRoles tally.seenSubjects approval
    · rw [tallyApproval_of_counted counted]
      cases checked : check approval with
      | none => simp [Undisputed, counted, checked]
      | some err => simp [Undisputed, checked]
    constructor
    · exact fun ⟨clean, _⟩ => absurd clean (failures_of_not_counted counted)
    · exact fun ⟨_, undisputed⟩ => absurd undisputed.1 counted

theorem seenRoles_foldl :
    ∀ {tally : Tally},
      Undisputed lib check manifest tally.seenRoles tally.seenSubjects approvals →
      (approvals.foldl (tallyApproval lib check manifest) tally).seenRoles =
        (approvals.map (·.role)).reverse ++ tally.seenRoles := by
  induction approvals with
  | nil => exact fun _ => rfl
  | cons approval approvals ih =>
    intro tally undisputed
    obtain ⟨counted, -, rest⟩ := undisputed
    rw [List.foldl_cons, tallyApproval_of_counted counted, ih rest, List.map_cons,
      List.reverse_cons, List.append_assoc]
    rfl

/-- `verifyApprovals` accepts exactly undisputed approvals that cover every required role. -/
theorem verifyApprovals_eq_none_iff :
    verifyApprovals lib check manifest = none ↔
      Undisputed lib check manifest [] [] manifest.approvals ∧
        ∀ role ∈ requiredApprovalRoles, role ∈ manifest.approvals.map (·.role) := by
  have loop : (manifest.approvals.foldl (tallyApproval lib check manifest) {}).failures = [] ↔
      Undisputed lib check manifest [] [] manifest.approvals :=
    failures_foldl.trans (and_iff_right rfl)
  have split : verifyApprovals lib check manifest = none ↔
      (manifest.approvals.foldl (tallyApproval lib check manifest) {}).failures = [] ∧
        ∀ role ∈ requiredApprovalRoles,
          role ∈ (manifest.approvals.foldl (tallyApproval lib check manifest) {}).seenRoles := by
    unfold verifyApprovals
    simp [List.filter_eq_nil_iff]
  rw [split, loop]
  refine and_congr_right fun undisputed => ?_
  rw [seenRoles_foldl undisputed]
  simp

/-- The loop over the approvals: all checked, no role or subject twice. -/
theorem Undisputed.spec :
    ∀ {roles subjects : List String}, Undisputed lib check manifest roles subjects approvals →
      roles.Nodup → subjects.Nodup →
      (∀ approval ∈ approvals, approvalBound manifest approval = true ∧ check approval = none) ∧
      ((approvals.map (·.role)).reverse ++ roles).Nodup ∧
      ((approvals.map (·.subject)).reverse ++ subjects).Nodup := by
  induction approvals with
  | nil => exact fun _ roles subjects => ⟨nofun, roles, subjects⟩
  | cons approval approvals ih =>
    intro roles subjects undisputed distinctRoles distinctSubjects
    obtain ⟨⟨bound, newRole, newSubject, -⟩, checked, rest⟩ := undisputed
    obtain ⟨all, rolesOnce, subjectsOnce⟩ := ih rest (List.nodup_cons.mpr ⟨newRole, distinctRoles⟩)
      (List.nodup_cons.mpr ⟨newSubject, distinctSubjects⟩)
    refine ⟨?_, ?_, ?_⟩
    · intro other present
      rcases List.mem_cons.mp present with rfl | later
      · exact ⟨bound, checked⟩
      · exact all other later
    · rwa [List.map_cons, List.reverse_cons, List.append_assoc]
    · rwa [List.map_cons, List.reverse_cons, List.append_assoc]

theorem Undisputed.of_check :
    ∀ {roles subjects : List String}, Undisputed lib check manifest roles subjects approvals →
      (∀ approval ∈ approvals, other approval = none) →
      Undisputed lib other manifest roles subjects approvals := by
  induction approvals with
  | nil => exact fun _ _ => trivial
  | cons approval approvals ih =>
    intro roles subjects undisputed passed
    obtain ⟨counted, -, rest⟩ := undisputed
    exact ⟨counted, passed approval List.mem_cons_self,
      ih rest fun later present => passed later (by simp [present])⟩

end Approvals

/-! ## The sidecars -/

/-- A sidecar that names the approval, the release and the manifest, with a signature that
verifies. -/
structure SidecarFor (lib : GateLibrary) (gate : ReleaseManifestGate) (files : FileTree)
    (manifest : ReleaseManifest String) (approval : ReleaseApproval String)
    (sidecar : ApprovalSidecar) : Prop where
  read : ∃ data, files (gate.sidecarPath approval.role) = .file data ∧ lib.sidecar data = .ok sidecar
  role : sidecar.role = approval.role
  subject : sidecar.subject = approval.subject
  release : sidecar.releaseSHA = manifest.releaseSHA
  digest : sidecar.manifestSHA256 = hexEncode (sha256 (canonicalJSON manifest))
  algorithm : sidecar.algorithm = "Ed25519"
  signed : ∃ pub sig, lib.base64 sidecar.publicKey = .ok pub ∧
    lib.base64 sidecar.signature = .ok sig ∧ pub.length = 32 ∧ sig.length = 64 ∧
    lib.verify pub (payload (canonicalJSON manifest) approval manifest) sig = true

theorem readFile_file (found : files path = .file data) : readFile files path = .ok data := by
  rw [readFile, found]

/-- A sidecar passes exactly if it stands for its approval. -/
theorem verifyApprovalSidecar_eq_none_iff :
    gate.verifyApprovalSidecar lib files manifest (canonicalJSON manifest)
        (hexEncode (sha256 (canonicalJSON manifest))) approval = none ↔
      ∃ sidecar, SidecarFor lib gate files manifest approval sidecar := by
  constructor
  · intro passed
    unfold verifyApprovalSidecar at passed
    split at passed
    · cases passed
    rename_i data read
    split at passed
    · cases passed
    rename_i sidecar decoded
    split at passed
    · cases passed
    rename_i bound
    simp only [not_or, not_not] at bound
    obtain ⟨role, subject, release, digest, algorithm⟩ := bound
    split at passed
    · rename_i pub sig key signature
      split at passed
      · cases passed
      rename_i lengths
      simp only [not_or, not_not] at lengths
      split at passed
      · cases passed
      rename_i verified
      exact ⟨sidecar, ⟨data, file_of_readFile read, decoded⟩, role, subject, release, digest, algorithm,
        pub, sig, key, signature, lengths.1, lengths.2, by simpa using verified⟩
    · cases passed
  rintro ⟨sidecar, ⟨data, read, decoded⟩, role, subject, release, digest, algorithm, pub, sig, key,
    signature, keyLength, signatureLength, verified⟩
  simp [verifyApprovalSidecar, readFile_file read, decoded, role, subject, release, digest, algorithm,
    key, signature, keyLength, signatureLength, verified]

/-! ## The gate -/

/-- `Verify` accepts exactly when the manifest is validated, its approvals are undisputed and
complete, and the artifact is the item's. -/
theorem verifyItem_eq_none_iff :
    gate.verifyItem lib files now item = none ↔
      ∃ manifest, gate.readAndValidateManifest lib files now item =
          .ok (canonicalJSON manifest, manifest) ∧
        verifyApprovals lib (gate.verifyApprovalSidecar lib files manifest (canonicalJSON manifest)
          (hexEncode (sha256 (canonicalJSON manifest)))) manifest = none ∧
        gate.verifyArtifact files item manifest = none := by
  constructor
  · intro accepted
    unfold verifyItem at accepted
    split at accepted
    · cases accepted
    rename_i canonical manifest read
    have same := (validated_of_read read).1
    rw [same] at read accepted
    split at accepted
    · cases accepted
    rename_i approved
    exact ⟨manifest, read, approved, accepted⟩
  · rintro ⟨manifest, read, approved, bound⟩
    simp only [verifyItem, read, approved, bound]

theorem artifact_of_verifyArtifact (passed : gate.verifyArtifact files item manifest = none) :
    ∃ artifact ∈ manifest.artifacts, artifact.evidenceID = item.evidenceID ∧
      artifact.sha256 = item.payloadDigest ∧
      ∃ data, files (gate.artifactPath artifact) = .file data ∧
        hexEncode (sha256 data) = item.payloadDigest := by
  unfold verifyArtifact at passed
  split at passed
  · cases passed
  rename_i artifact found
  split at passed
  · cases passed
  rename_i bound
  split at passed
  · cases passed
  rename_i data read
  split at passed
  · cases passed
  rename_i same
  have digest := not_not.mp bound
  refine ⟨artifact, List.mem_of_find?_eq_some found, by simpa using List.find?_some found, digest, data,
    file_of_readFile read, ?_⟩
  rw [not_not.mp same, digest]

theorem verifyArtifact_congr (same : ∀ artifact ∈ manifest.artifacts,
      other (gate.artifactPath artifact) = files (gate.artifactPath artifact)) :
    gate.verifyArtifact other item manifest = gate.verifyArtifact files item manifest := by
  cases found : manifest.artifacts.find? (·.evidenceID = item.evidenceID) with
  | none => rw [verifyArtifact, verifyArtifact, found]
  | some artifact =>
    rw [verifyArtifact, verifyArtifact, found]
    simp only [readFile, same artifact (List.mem_of_find?_eq_some found)]

/-- The file of a fine artifact lies within the directory of the manifest. -/
theorem artifactPath_within (fine : artifactFine artifact = true) :
    Within (dir gate.manifestPath) (gate.artifactPath artifact) := by
  simp only [artifactFine, Bool.and_eq_true, Bool.not_eq_true', decide_eq_true_eq] at fine
  obtain ⟨⟨⟨-, relative⟩, cleaned⟩, inside⟩ := fine
  exact join_within _ cleaned relative inside

/-- Four approvals of required roles, none twice: each role once. -/
theorem roles_of_undisputed (validated : Validated lib gate now item manifest)
    (undisputed : Undisputed lib check manifest [] [] manifest.approvals) :
    (manifest.approvals.map (·.role)).Perm requiredApprovalRoles := by
  obtain ⟨sound, once, -⟩ := undisputed.spec List.nodup_nil List.nodup_nil
  rw [List.append_nil, (List.reverse_perm _).nodup_iff] at once
  have known : ∀ role ∈ manifest.approvals.map (·.role), role ∈ requiredApprovalRoles := by
    intro role present
    obtain ⟨approval, member, rfl⟩ := List.mem_map.mp present
    have checked := (sound approval member).1
    simp only [approvalBound, Bool.and_eq_true, List.contains_iff_mem] at checked
    exact checked.1.1
  have four := validated.release
  simp only [releaseBound, Bool.and_eq_true, decide_eq_true_eq] at four
  refine (List.subperm_of_subset once known).perm_of_length_le ?_
  rw [List.length_map, four.2]
  exact le_refl _

/-- A release manifest that is bound to the gate and the item, is approved by the four roles
and holds the artifact of the item. -/
structure BoundRelease (lib : GateLibrary) (gate : ReleaseManifestGate) (files : FileTree)
    (now : Time) (item : QueueItem) (manifest : ReleaseManifest String) : Prop where
  read : ∃ data, files gate.manifestPath = .file data ∧ lib.manifest data = .ok manifest
  release : manifest.releaseSHA = item.releaseSHA ∧ validLowerHex item.releaseSHA 40 = true
  environment : manifest.environment = gate.environment
  bucket : manifest.worm.bucket = gate.wormBucket
  retained : ∃ retainUntil, lib.parseTime manifest.worm.retainUntil = .ok retainUntil ∧
    now < retainUntil
  complete : ∀ id ∈ evidenceIDs, id ∈ manifest.artifacts.map (·.evidenceID)
  distinct : (manifest.artifacts.map (·.evidenceID)).Nodup
  roles : (manifest.approvals.map (·.role)).Perm requiredApprovalRoles
  subjects : (manifest.approvals.map (·.subject)).Nodup
  signed : ∀ approval ∈ manifest.approvals,
    ∃ sidecar, SidecarFor lib gate files manifest approval sidecar
  artifact : ∃ artifact ∈ manifest.artifacts, artifact.evidenceID = item.evidenceID ∧
    artifact.sha256 = item.payloadDigest ∧
    Within (dir gate.manifestPath) (gate.artifactPath artifact) ∧
    (files (dir gate.manifestPath) = .directory →
      gate.artifactPath artifact ≠ dir gate.manifestPath) ∧
    ∃ data, files (gate.artifactPath artifact) = .file data ∧
      hexEncode (sha256 data) = item.payloadDigest

theorem boundRelease_of_verifyItem (accepted : gate.verifyItem lib files now item = none) :
    ∃ manifest, BoundRelease lib gate files now item manifest := by
  obtain ⟨manifest, read, approved, bound⟩ := verifyItem_eq_none_iff.mp accepted
  obtain ⟨-, validated, found⟩ := validated_of_read read
  obtain ⟨undisputed, covered⟩ := verifyApprovals_eq_none_iff.mp approved
  obtain ⟨sound, -, subjects⟩ := undisputed.spec List.nodup_nil List.nodup_nil
  rw [List.append_nil, (List.reverse_perm _).nodup_iff] at subjects
  have release := validated.release
  simp only [releaseBound, Bool.and_eq_true, decide_eq_true_eq] at release
  obtain ⟨⟨⟨⟨hex, environment⟩, sha⟩, -⟩, -⟩ := release
  have worm := validated.worm
  simp only [wormBound, Bool.and_eq_true, decide_eq_true_eq] at worm
  refine ⟨manifest, found, ⟨sha, sha ▸ hex⟩, environment, worm.1.1.1.1, validated.retained,
    validated.complete, validated.distinct, roles_of_undisputed validated undisputed, subjects, ?_, ?_⟩
  · intro approval member
    exact verifyApprovalSidecar_eq_none_iff.mp (sound approval member).2
  obtain ⟨artifact, member, id, digest, data, file, same⟩ := artifact_of_verifyArtifact bound
  refine ⟨artifact, member, id, digest, artifactPath_within (validated.fine artifact member), ?_,
    data, file, same⟩
  intro folder outside
  rw [outside, folder] at file
  cases file

end ReleaseManifestGate

/-! ## The claim about the gate, and a release it accepts -/

open ReleaseManifestGate

/-- Whatever the files, the clock and the item are, the gate accepts only a bound release. -/
theorem accepted_release_is_bound (lib : GateLibrary) (gate : Option ReleaseManifestGate)
    (files : FileTree) (now : Time) (ctxErr : Option GoError) (item : QueueItem)
    (accepted : verifyRelease lib gate files now ctxErr item = none) :
    ∃ g manifest, gate = some g ∧ BoundRelease lib g files now item manifest := by
  unfold verifyRelease at accepted
  split at accepted
  · cases accepted
  rename_i g
  split at accepted
  · cases accepted
  obtain ⟨manifest, bound⟩ := boundRelease_of_verifyItem accepted
  exact ⟨g, manifest, rfl, bound⟩

/-! ## Sidecars as JSON -/

def sidecarFields (sidecar : ApprovalSidecar) : List (String × JsonValue) :=
  [("role", .str sidecar.role), ("subject", .str sidecar.subject),
    ("release_sha", .str sidecar.releaseSHA), ("manifest_sha256", .str sidecar.manifestSHA256),
    ("algorithm", .str sidecar.algorithm), ("public_key", .str sidecar.publicKey),
    ("signature", .str sidecar.signature)]

def writeSidecar (sidecar : ApprovalSidecar) : List UInt8 :=
  bytes (jsonObject (sidecarFields sidecar))

/-- `json.Unmarshal` of an object of strings without white space; what is missing is empty. -/
def readSidecar (data : List UInt8) : Except GoError ApprovalSidecar :=
  match (String.fromUTF8? ⟨data.toArray⟩).bind (readObject true) with
  | none => .error (.new "invalid character")
  | some fields =>
    let text name := match fields.lookup name with
      | some (.str text) => text
      | _ => ""
    .ok ⟨text "role", text "subject", text "release_sha", text "manifest_sha256",
      text "algorithm", text "public_key", text "signature"⟩

/-- A sidecar that is written is read back. -/
theorem readSidecar_writeSidecar (sidecar : ApprovalSidecar) :
    readSidecar (writeSidecar sidecar) = .ok sidecar := by
  have decoded (text : String) : String.fromUTF8? ⟨(bytes text).toArray⟩ = some text :=
    dif_pos text.isValidUTF8
  have read : readObject true (jsonObject (sidecarFields sidecar)) =
      some (sidecarFields sidecar) :=
    readObject_jsonObject (by simp [sidecarFields, readableField, readable])
  rw [readSidecar, writeSidecar, decoded, Option.bind_some, read]
  rfl

/-! ## A sample release -/

def sampleApproval (role : String) : ReleaseApproval String :=
  ⟨role, role ++ "@umoja", "0123456789abcdef0123456789abcdef01234567", "2026-01-01T00:00:00Z"⟩

/-- A manifest of nine empty evidence files, approved by the four roles. -/
def sampleManifest : ReleaseManifest String where
  releaseSHA := "0123456789abcdef0123456789abcdef01234567"
  environment := "production"
  createdAt := "2026-01-01T00:00:00Z"
  artifacts := evidenceIDs.map fun id =>
    ⟨id, "evidence/" ++ id, "e3b0c44298fc1c149afbf4c8996fb92427ae41e4649b934ca495991b7852b855", "run-1"⟩
  approvals := requiredApprovalRoles.map sampleApproval
  worm := ⟨"umoja-worm", "releases/1", "COMPLIANCE", "2036-01-01T00:00:00Z"⟩
  reconciliation := ⟨"reconciliation-1"⟩

def sampleGate : ReleaseManifestGate where
  manifestPath := "release/manifest.json"
  signaturesDir := "approvals"
  environment := "production"
  wormBucket := "umoja-worm"

def sampleItem : QueueItem where
  idempotencyKey := "release-1"
  releaseSHA := "0123456789abcdef0123456789abcdef01234567"
  evidenceID := "E-01"
  payloadDigest := "e3b0c44298fc1c149afbf4c8996fb92427ae41e4649b934ca495991b7852b855"

def roleKey (role : String) : List UInt8 :=
  bigEndian 32 <|
    if role = "security_owner" then 0xbbdb68ecfd66595b6438ba780a70ea4f77c6efc540838d4cf7e32cbd73cec130
    else if role = "compliance_owner" then 0x1625317da8aafde6c6888530d511a61c2c97d90524ee74a2c1adfedc657ac1fa
    else if role = "operations_owner" then 0x6f4718fadf26a4e0bc004ada912be80acf19f0d7bcbd53c2a2f9fe327681c360
    else 0xbf50d595508235472120091868703225379669d7e028c3d177c53dc54660adff

/-- An Ed25519 signature: whose key, whose approval, and its two halves. -/
structure SampleSignature where
  owner : String
  role : String
  point : Nat
  scalar : Nat

def SampleSignature.data (signature : SampleSignature) : List UInt8 :=
  bigEndian 32 signature.point ++ bigEndian 32 signature.scalar

def sampleSignatures : List SampleSignature :=
  [⟨"release_manager", "release_manager",
      0x2f64f4a782736f00e41b252c3b0e467a08a6b0ef49f63c9b68bd86e4427b81b0,
      0xdf4a84ce850b3ca68a0850e202721fa02079881f83ad08a08dd488a46ce57909⟩,
    ⟨"security_owner", "security_owner",
      0x42e73cef35fd20b888cec54b6b5167bb1da0ae36659c2f801d44035d06876252,
      0x91f59146f05ebe1864f8f750ba0826131d5848edfc74dc63d7f4720a1b500e0f⟩,
    ⟨"compliance_owner", "compliance_owner",
      0x3fe87b45cb43a78f4ab504a472c77fc48f2c6849e5751685d87aca5b15e119f7,
      0xff7dcf27370bad3c738f7f76329d5aaa3529a1b2ecb72d92e2d9b586d55e9d04⟩,
    ⟨"operations_owner", "operations_owner",
      0x41d5f3183d043addc695873e7c7705873b98731a5c77804cde90cf82cb86d79a,
      0x8f878278f0f5962f8e93bda2fbc7b59b6dbeceb996cd8a795989eb8ed4b42801⟩,
    ⟨"release_manager", "security_owner",
      0xcfd4bcfc3e1c9f90b46399d462c91936243799ee497321c0cde5b28259359988,
      0xa8922731839b3013975b1cedece3e4c14e0cb6df3ac42e2ee3fa10ca09eb8f08⟩,
    ⟨"release_manager", "compliance_owner",
      0xd16ddaa96b14055ace14966592af1ec8affc3f5249bf343a9202a399a1e63469,
      0x3d88c61ec33bd394820d0db1874f95541be089a1a66c032fa9151d3a5452d300⟩,
    ⟨"release_manager", "operations_owner",
      0x7d2d1b469e55e61674c41c08926a57456718d846eb3a3f41a131345b89268398,
      0x702b0b02d93353be108be5eb503546fce7e5d131fbd6379e5679796aa8cf5802⟩]

/-- The signature where it is listed, and elsewhere a stand-in without a secret. -/
def sampleSign (key message : List UInt8) : List UInt8 :=
  match sampleSignatures.find? fun signature => roleKey signature.owner = key &&
      message = payload (canonicalJSON sampleManifest) (sampleApproval signature.role)
        sampleManifest with
  | some signature => signature.data
  | none => sha256 (key ++ message) ++ sha256 message

/-- Midnight after so many days from the beginning of the year 1. -/
def midnight (days : Int) : Time := days * 86400000000000

/-- The functions of the gate's library, as far as the sample files need them. -/
def sampleLibrary : GateLibrary where
  manifest data :=
    if data = canonicalJSON sampleManifest then .ok sampleManifest
    else .error (.new "invalid character")
  sidecar := readSidecar
  base64 := Base64.decodeString
  parseTime text :=
    if text = "2026-01-01T00:00:00Z" then .ok (midnight 739616)
    else if text = "2036-01-01T00:00:00Z" then .ok (midnight 743268)
    else .error (.new ("parsing time " ++ text))
  verify key message signature := signature = sampleSign key message

def sampleNow : Time := midnight 739617

def sidecarUnder (sign : List UInt8 → List UInt8) (encode : List UInt8 → String) (key : List UInt8)
    (manifest : ReleaseManifest String) (approval : ReleaseApproval String) : ApprovalSidecar where
  role := approval.role
  subject := approval.subject
  releaseSHA := manifest.releaseSHA
  manifestSHA256 := hexEncode (sha256 (canonicalJSON manifest))
  algorithm := "Ed25519"
  publicKey := encode key
  signature := encode (sign (payload (canonicalJSON manifest) approval manifest))

theorem sidecarFor_sidecarUnder (encodes : ∀ bytes, lib.base64 (encode bytes) = .ok bytes)
    (keyLength : key.length = 32) (signatureLength : ∀ message, (sign message).length = 64)
    (verifies : ∀ message, lib.verify key message (sign message) = true)
    (file : files (gate.sidecarPath approval.role) = .file data)
    (decoded : lib.sidecar data = .ok (sidecarUnder sign encode key manifest approval)) :
    SidecarFor lib gate files manifest approval (sidecarUnder sign encode key manifest approval) where
  read := ⟨data, file, decoded⟩
  role := rfl
  subject := rfl
  release := rfl
  digest := rfl
  algorithm := rfl
  signed := ⟨key, sign (payload (canonicalJSON manifest) approval manifest), encodes _, encodes _,
    keyLength, signatureLength _, verifies _⟩

def sampleSidecar (key : List UInt8) : ReleaseApproval String → ApprovalSidecar :=
  sidecarUnder (sampleSign key) Base64.encodeToString key sampleManifest

/-- The files of the sample release, each role's approval signed under its key. -/
def sampleFiles (keyOf : String → List UInt8) : FileTree := fun path =>
  match sampleManifest.approvals.find? (fun approval => sampleGate.sidecarPath approval.role = path) with
  | some approval => .file (writeSidecar (sampleSidecar (keyOf approval.role) approval))
  | none =>
    if path = "release" then .directory
    else .file (if path = sampleGate.manifestPath then canonicalJSON sampleManifest else [])

section Sample

attribute [local irreducible] canonicalJSON sha256 readSidecar Base64.decodeString sampleSign

theorem sample_stored (keyOf : String → List UInt8) (member : approval ∈ sampleManifest.approvals) :
    sampleFiles keyOf (sampleGate.sidecarPath approval.role) =
      .file (writeSidecar (sampleSidecar (keyOf approval.role) approval)) := by
  have found : ∀ approval ∈ sampleManifest.approvals, sampleManifest.approvals.find?
      (fun other => sampleGate.sidecarPath other.role = sampleGate.sidecarPath approval.role) =
      some approval := by decide
  rw [sampleFiles, found approval member]

theorem sample_unsigned : verifyApprovals sampleLibrary (fun _ => none) sampleManifest = none := by
    decide

def sampleArtifact : ReleaseArtifact String :=
  ⟨"E-01", "evidence/E-01", sampleItem.payloadDigest, "run-1"⟩

/-- The sample manifest passes its checks, and its files lie at paths of their own. -/
theorem sample_checks :
    sampleGate.validateManifest sampleLibrary sampleNow sampleItem sampleManifest = none ∧
      sampleManifest.artifacts.find? (·.evidenceID = sampleItem.evidenceID) = some sampleArtifact ∧
      hexEncode (sha256 []) = sampleItem.payloadDigest ∧
      sampleManifest.approvals.find? (fun approval =>
        sampleGate.sidecarPath approval.role = sampleGate.manifestPath) = none ∧
      sampleManifest.approvals.find? (fun approval =>
        sampleGate.sidecarPath approval.role = sampleGate.artifactPath sampleArtifact) = none ∧
      sampleGate.artifactPath sampleArtifact ≠ "release" ∧
      sampleGate.artifactPath sampleArtifact ≠ sampleGate.manifestPath := by
  decide +kernel

attribute [local irreducible] sampleManifest

theorem sampleSign_length (key message : List UInt8) : (sampleSign key message).length = 64 := by
  unfold sampleSign
  split
  · rw [SampleSignature.data, List.length_append, bigEndian_length, bigEndian_length]
  · rw [List.length_append, sha256_length, sha256_length]

theorem sample_sidecars (lengths : ∀ role, (keyOf role).length = 32) :
    ∀ approval ∈ sampleManifest.approvals,
      sampleGate.verifyApprovalSidecar sampleLibrary (sampleFiles keyOf) sampleManifest
        (canonicalJSON sampleManifest) (hexEncode (sha256 (canonicalJSON sampleManifest)))
        approval = none := by
  intro approval member
  have encodes : ∀ data, sampleLibrary.base64 (Base64.encodeToString data) = .ok data :=
    Base64.decodeString_encodeToString
  have verifies : ∀ message, sampleLibrary.verify (keyOf approval.role) message
      (sampleSign (keyOf approval.role) message) = true := fun message => decide_eq_true rfl
  exact verifyApprovalSidecar_eq_none_iff.mpr ⟨_, sidecarFor_sidecarUnder encodes
    (lengths approval.role) (sampleSign_length _) verifies (sample_stored keyOf member)
    (readSidecar_writeSidecar _)⟩

theorem sample_accepted (lengths : ∀ role, (keyOf role).length = 32) :
    sampleGate.verifyItem sampleLibrary (sampleFiles keyOf) sampleNow sampleItem = none := by
  have plain : ∀ path, sampleManifest.approvals.find?
      (fun approval => sampleGate.sidecarPath approval.role = path) = none → path ≠ "release" →
      readFile (sampleFiles keyOf) path =
        .ok (if path = sampleGate.manifestPath then canonicalJSON sampleManifest else []) := by
    intro path other outside
    rw [readFile, sampleFiles, other]
    simp only [if_neg outside]
  obtain ⟨undisputed, covered⟩ := verifyApprovals_eq_none_iff.mp sample_unsigned
  obtain ⟨valid, listed, digest, manifest, artifact, outside, apart⟩ := sample_checks
  rw [verifyItem_eq_none_iff]
  refine Exists.intro sampleManifest (And.intro ?_ (And.intro ?_ ?_))
  · have read := plain _ manifest (by decide)
    rw [if_pos rfl] at read
    exact readAndValidateManifest_eq_ok read (if_pos rfl) valid
  · rw [verifyApprovals_eq_none_iff]
    exact And.intro (undisputed.of_check (sample_sidecars lengths)) covered
  rw [verifyArtifact, listed]
  simp only [plain _ artifact outside, if_neg apart, digest]
  simp [sampleArtifact]

theorem roleKey_length (role : String) : (roleKey role).length = 32 := bigEndian_length _ _

/-- The sample release is accepted, each role under its own key. -/
theorem sample_release_is_bound :
    verifyRelease sampleLibrary (some sampleGate) (sampleFiles roleKey) sampleNow none sampleItem = none ∧
    ∃ g manifest, some sampleGate = some g ∧
      BoundRelease sampleLibrary g (sampleFiles roleKey) sampleNow sampleItem manifest :=
  have accepted : verifyRelease sampleLibrary (some sampleGate) (sampleFiles roleKey) sampleNow none
      sampleItem = none := sample_accepted roleKey_length
  ⟨accepted, accepted_release_is_bound _ _ _ _ _ _ accepted⟩

end Sample

end UmojaFlowOS.Attestation
