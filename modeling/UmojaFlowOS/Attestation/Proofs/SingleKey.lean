import UmojaFlowOS.Attestation.Proofs.ReleaseGate
import Mathlib.Data.List.Nodup

/-!
# Whose keys the release gate trusts

The key an approval is verified under stands in its sidecar (release_gate.go:198-207), and
the gate holds no keys of its own. Given files it accepts, the four sidecars can be written
again under any one key pair: what is asked of the signatures asks nothing of who made them.
-/

namespace UmojaFlowOS.Attestation

open Crypto Go ReleaseManifestGate

/-- A key pair whose signatures verify. -/
structure KeyPair (lib : GateLibrary) where
  publicKey : List UInt8
  sign : List UInt8 → List UInt8
  keyLength : publicKey.length = 32
  signatureLength : ∀ message, (sign message).length = 64
  verifies : ∀ message, lib.verify publicKey message (sign message) = true

/-- Every sidecar has a JSON text and all bytes have a base64 text. -/
structure Writable (lib : GateLibrary) : Prop where
  sidecar : ∀ sidecar, ∃ data, lib.sidecar data = .ok sidecar
  base64 : ∀ data, ∃ text, lib.base64 text = .ok data

section
variable (lib : GateLibrary)

section
variable (gate : ReleaseManifestGate)

def publicKeyOf (files : FileTree) (role : String) :
    Option (List UInt8) :=
  match readFile files (gate.sidecarPath role) with
  | .error _ => none
  | .ok data =>
    match lib.sidecar data with
    | .error _ => none
    | .ok sidecar => (lib.base64 sidecar.publicKey).toOption

/-- The four approvals are made under four different keys, all of them trusted. -/
def IndependentKeys (trusted : List UInt8 → Prop)
    (files : FileTree) : Prop :=
  (requiredApprovalRoles.map (publicKeyOf lib gate files)).Nodup ∧
    ∀ role ∈ requiredApprovalRoles, ∃ key, publicKeyOf lib gate files role = some key ∧ trusted key

/-- The four approvals are made under one key. -/
def SingleKey (key : List UInt8)
    (files : FileTree) : Prop :=
  ∀ role ∈ requiredApprovalRoles, publicKeyOf lib gate files role = some key

end

end

/-- Two file trees that differ in the four sidecars only. -/
def SameOutside (gate : ReleaseManifestGate) (files other : FileTree) : Prop :=
  ∀ path, (∀ role ∈ requiredApprovalRoles, path ≠ gate.sidecarPath role) → other path = files path

/-- The four sidecars are files of their own: none is the manifest or one of its artifacts. -/
structure Separate (lib : GateLibrary) (gate : ReleaseManifestGate) (files : FileTree) : Prop where
  manifest : ∀ role ∈ requiredApprovalRoles, gate.manifestPath ≠ gate.sidecarPath role
  artifact : ∀ data manifest, files gate.manifestPath = .file data →
    lib.manifest data = .ok manifest → ∀ artifact ∈ manifest.artifacts,
      ∀ role ∈ requiredApprovalRoles, gate.artifactPath artifact ≠ gate.sidecarPath role

theorem publicKeyOf_eq_some (found : files (gate.sidecarPath role) = .file data)
    (decoded : lib.sidecar data = .ok sidecar) (encoded : lib.base64 sidecar.publicKey = .ok key) :
    publicKeyOf lib gate files role = some key := by
  rw [publicKeyOf, readFile_file found]
  simp only [decoded, encoded]
  rfl

/-- Two of the four roles would have different keys. -/
theorem not_independentKeys_of_singleKey {trusted : List UInt8 → Prop}
    (single : SingleKey lib gate key files) : ¬ IndependentKeys lib gate trusted files := by
  intro independent
  have keys : requiredApprovalRoles.map (publicKeyOf lib gate files) =
      List.replicate 4 (some key) :=
    List.map_eq_replicate_iff.mpr single
  have distinct := independent.1
  rw [keys] at distinct
  exact absurd (List.nodup_replicate.mp distinct) (by decide)

/-! ## Writing the sidecars again -/

/-- Each required role has a sidecar of its own. -/
theorem sidecarPath_injective (gate : ReleaseManifestGate)
    (required : first ∈ requiredApprovalRoles) (other : second ∈ requiredApprovalRoles)
    (same : gate.sidecarPath first = gate.sidecarPath second) : first = second := by
  have ordinary : ∀ role ∈ requiredApprovalRoles,
      (role ++ ".json").toList ≠ [] ∧ (role ++ ".json").toList ≠ ['.'] ∧
        '/' ∉ (role ++ ".json").toList ∧ (role ++ ".json").toList ≠ upward := by decide
  have named : ∀ role ∈ requiredApprovalRoles, Ordinary (role ++ ".json").toList := by
    intro role member
    obtain ⟨full, dotless, slashless, down⟩ := ordinary role member
    exact ⟨⟨full, dotless, slashless⟩, down⟩
  have names := join_injective _ (named first required) (named second other) same
  have chars := congrArg String.toList names
  rw [String.toList_append, String.toList_append] at chars
  exact String.toList_inj.mp (List.append_cancel_right chars)

def resigned (gate : ReleaseManifestGate) (approvals : List (ReleaseApproval String))
    (sidecarData : ReleaseApproval String → List UInt8) (files : FileTree) : FileTree := fun path =>
  match approvals.find? (fun approval => gate.sidecarPath approval.role = path) with
  | some approval => .file (sidecarData approval)
  | none => files path

section Resigned

variable {gate : ReleaseManifestGate} {approvals : List (ReleaseApproval String)}
  {sidecarData : ReleaseApproval String → List UInt8} {files : FileTree}

section
variable (roles : (approvals.map (·.role)).Perm requiredApprovalRoles)
include roles

theorem resigned_sidecar (member : approval ∈ approvals) :
    resigned gate approvals sidecarData files (gate.sidecarPath approval.role) =
      .file (sidecarData approval) := by
  have required : ∀ other ∈ approvals, other.role ∈ requiredApprovalRoles := fun other present =>
    roles.mem_iff.mp (List.mem_map_of_mem present)
  have distinct : (approvals.map (·.role)).Nodup := roles.nodup_iff.mpr (by decide)
  have found : approvals.find? (fun other => gate.sidecarPath other.role =
      gate.sidecarPath approval.role) = some approval := by
    cases shape : approvals.find? (fun other => gate.sidecarPath other.role =
        gate.sidecarPath approval.role) with
    | none => exact absurd (List.find?_eq_none.mp shape approval member) (by simp)
    | some other =>
      have present := List.mem_of_find?_eq_some shape
      have path : gate.sidecarPath other.role = gate.sidecarPath approval.role := by
        simpa using List.find?_some shape
      have role := sidecarPath_injective gate (required other present) (required approval member) path
      rw [List.inj_on_of_nodup_map distinct present member role]
  rw [resigned, found]

theorem resigned_other (other : ∀ role ∈ requiredApprovalRoles, path ≠ gate.sidecarPath role) :
    resigned gate approvals sidecarData files path = files path := by
  have missing : approvals.find? (fun approval => gate.sidecarPath approval.role = path) = none := by
    rw [List.find?_eq_none]
    intro approval member
    have required := roles.mem_iff.mp (List.mem_map_of_mem member)
    simpa using (other approval.role required).symm
  rw [resigned, missing]

end

end Resigned

section Forged

variable {lib : GateLibrary} {gate : ReleaseManifestGate} {files : FileTree} {now : Time}
  {item : QueueItem}

/-- Whatever sidecars the gate accepts, it accepts sidecars under one key pair instead. -/
theorem singleKey_accepted (writable : Writable lib) (pair : KeyPair lib)
    (separate : Separate lib gate files) (accepted : gate.verifyItem lib files now item = none) :
    ∃ forged, SameOutside gate files forged ∧ SingleKey lib gate pair.publicKey forged ∧
      gate.verifyItem lib forged now item = none := by
  obtain ⟨manifest, read, approved, bound⟩ := verifyItem_eq_none_iff.mp accepted
  obtain ⟨-, validated, data, file, decoded⟩ := validated_of_read read
  obtain ⟨undisputed, covered⟩ := verifyApprovals_eq_none_iff.mp approved
  have roles := roles_of_undisputed validated undisputed
  choose encode encodes using writable.base64
  choose write written using writable.sidecar
  let sidecar := sidecarUnder pair.sign encode pair.publicKey manifest
  let forged := resigned gate manifest.approvals (fun approval => write (sidecar approval)) files
  have outside : SameOutside gate files forged := fun path other => resigned_other roles other
  have stands : ∀ approval ∈ manifest.approvals,
      SidecarFor lib gate forged manifest approval (sidecar approval) := by
    intro approval member
    exact sidecarFor_sidecarUnder encodes pair.keyLength pair.signatureLength pair.verifies
      (resigned_sidecar roles member) (written _)
  refine ⟨forged, outside, ?_, ?_⟩
  · intro role required
    obtain ⟨approval, member, rfl⟩ := List.mem_map.mp (covered role required)
    have found : forged (gate.sidecarPath approval.role) = .file (write (sidecar approval)) :=
      resigned_sidecar roles member
    exact publicKeyOf_eq_some found (written _) (encodes _)
  rw [verifyItem_eq_none_iff]
  refine ⟨manifest, ?_, ?_, ?_⟩
  · rw [readAndValidateManifest_congr (outside _ separate.manifest)]
    exact read
  · rw [verifyApprovals_eq_none_iff]
    refine ⟨undisputed.of_check fun approval member => ?_, covered⟩
    exact verifyApprovalSidecar_eq_none_iff.mpr ⟨_, stands approval member⟩
  rw [verifyArtifact_congr fun artifact member =>
    outside _ (separate.artifact data manifest file decoded artifact member)]
  exact bound

theorem Separate.of_sameOutside (separate : Separate lib gate files)
    (outside : SameOutside gate files other) : Separate lib gate other where
  manifest := separate.manifest
  artifact := fun data manifest file =>
    separate.artifact data manifest (outside _ separate.manifest ▸ file)

theorem SameOutside.trans (first : SameOutside gate files other)
    (second : SameOutside gate other last) : SameOutside gate files last := fun path apart =>
  (second path apart).trans (first path apart)

/-- With a given manifest and artifacts, the gate accepts no sidecars under one key pair, and
only sidecars under four different trusted keys, exactly where it accepts no sidecars. -/
theorem keys_are_independent_iff (writable : Writable lib) (pair : KeyPair lib)
    (trusted : List UInt8 → Prop) (separate : Separate lib gate files) :
    ((∀ other, SameOutside gate files other →
        verifyRelease lib (some gate) other now none item = none →
        ¬ SingleKey lib gate pair.publicKey other) ↔
      ∀ other, SameOutside gate files other →
        verifyRelease lib (some gate) other now none item ≠ none) ∧
    ((∀ other, SameOutside gate files other →
        verifyRelease lib (some gate) other now none item = none →
        IndependentKeys lib gate trusted other) ↔
      ∀ other, SameOutside gate files other →
        verifyRelease lib (some gate) other now none item ≠ none) := by
  have single : ∀ other, SameOutside gate files other →
      verifyRelease lib (some gate) other now none item = none →
      ∃ forged, SameOutside gate files forged ∧ SingleKey lib gate pair.publicKey forged ∧
        verifyRelease lib (some gate) forged now none item = none := by
    intro other outside accepted
    obtain ⟨forged, differs, one, passes⟩ :=
      singleKey_accepted writable pair (separate.of_sameOutside outside) accepted
    exact ⟨forged, outside.trans differs, one, passes⟩
  constructor
  · constructor
    · intro guarded other outside accepted
      obtain ⟨forged, differs, one, passes⟩ := single other outside accepted
      exact guarded forged differs passes one
    · exact fun nothing other outside accepted => absurd accepted (nothing other outside)
  constructor
  · intro guarded other outside accepted
    obtain ⟨forged, differs, one, passes⟩ := single other outside accepted
    exact not_independentKeys_of_singleKey one (guarded forged differs passes)
  · exact fun nothing other outside accepted => absurd accepted (nothing other outside)

end Forged

/-! ## The sample release under one key -/

section Sample

attribute [local irreducible] canonicalJSON sha256 readSidecar Base64.decodeString sampleSign roleKey

def samplePair : KeyPair sampleLibrary where
  publicKey := roleKey "release_manager"
  sign := sampleSign (roleKey "release_manager")
  keyLength := roleKey_length _
  signatureLength := sampleSign_length _
  verifies := fun _ => decide_eq_true rfl

theorem sample_writable : Writable sampleLibrary where
  sidecar := fun sidecar => ⟨writeSidecar sidecar, readSidecar_writeSidecar sidecar⟩
  base64 := fun data => ⟨Base64.encodeToString data, Base64.decodeString_encodeToString data⟩

theorem sample_separate (keyOf : String → List UInt8) :
    Separate sampleLibrary sampleGate (sampleFiles keyOf) := by
  have sidecars : ∀ role ∈ requiredApprovalRoles,
      hasPrefix (sampleGate.sidecarPath role) "release" = false := by decide
  have artifacts : ∀ artifact ∈ sampleManifest.artifacts,
      hasPrefix (sampleGate.artifactPath artifact) "release" = true := by decide +kernel
  have manifest : hasPrefix sampleGate.manifestPath "release" = true := by decide
  refine ⟨fun role required same => ?_, fun data decoded _ parsed artifact member role required same => ?_⟩
  · rw [same, sidecars role required] at manifest
    exact Bool.false_ne_true manifest
  obtain ⟨-, rfl⟩ : data = canonicalJSON sampleManifest ∧ sampleManifest = decoded := by
    change (if _ then _ else _) = _ at parsed
    split at parsed
    · exact ⟨‹_›, Except.ok.inj parsed⟩
    · cases parsed
  have inside := artifacts artifact member
  rw [same, sidecars role required] at inside
  exact Bool.false_ne_true inside

theorem sample_singleKey :
    SingleKey sampleLibrary sampleGate samplePair.publicKey (sampleFiles fun _ => samplePair.publicKey) := by
  have roles : ∀ role ∈ requiredApprovalRoles, ∃ approval ∈ sampleManifest.approvals,
      approval.role = role := by decide
  intro role required
  obtain ⟨approval, member, rfl⟩ := roles role required
  exact publicKeyOf_eq_some (sample_stored _ member) (readSidecar_writeSidecar _)
    (Base64.decodeString_encodeToString samplePair.publicKey)

attribute [local irreducible] sampleManifest verifyItem

/-- One key pair approves a release for all four roles. -/
theorem one_key_approves_release :
    verifyRelease sampleLibrary (some sampleGate) (sampleFiles fun _ => samplePair.publicKey)
      sampleNow none sampleItem = none ∧
    SingleKey sampleLibrary sampleGate samplePair.publicKey (sampleFiles fun _ => samplePair.publicKey) :=
  ⟨sample_accepted fun _ => samplePair.keyLength, sample_singleKey⟩

/-- Approvals under four keys are no safer: with the same manifest, the gate accepts one key. -/
theorem sample_keys_are_not_independent :
    ¬ ∀ other, SameOutside sampleGate (sampleFiles roleKey) other →
      verifyRelease sampleLibrary (some sampleGate) other sampleNow none sampleItem = none →
      IndependentKeys sampleLibrary sampleGate (fun _ => True) other := by
  intro guarded
  have nothing := (keys_are_independent_iff sample_writable samplePair (fun _ => True)
    (sample_separate roleKey)).2.mp guarded
  exact nothing (sampleFiles roleKey) (fun _ _ => rfl) (sample_accepted roleKey_length)

end Sample

end UmojaFlowOS.Attestation
