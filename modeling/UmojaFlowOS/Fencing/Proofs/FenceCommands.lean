import UmojaFlowOS.Fencing.Proofs.CommandText
import UmojaFlowOS.Fencing.Proofs.FenceInvariant
import UmojaFlowOS.Go.Base64
import UmojaFlowOS.Interaction.Guarded

/-!
# Fence commands are applied one after the other

Each step that changes the durable state records one new command with a newer version, and
an id that is recorded changes nothing again.
-/

namespace UmojaFlowOS.Fencing

open Crypto Go Interaction Ledger

/-- Between the two tables `row` was recorded, and became the state of its environment. -/
structure Applies (before after : FenceTables) (row : CommandRow) : Prop where
  recorded : after.commands = before.commands ++ [row]
  fresh : ∀ old ∈ before.commands, old.commandID ≠ row.commandID
  applied : after.stateOf row.environment = some row.state
  others : ∀ environment, environment ≠ row.environment →
    after.stateOf environment = before.stateOf environment
  newer : ∀ old, before.stateOf row.environment = some old → old.fenceVersion < row.fenceVersion

def Unchanged (before after : FenceTables) : Prop :=
  after.commands = before.commands ∧ after.states = before.states

theorem FenceTables.Pending.applies (pending : t.Pending row) :
    Applies t (t.record row) row where
  recorded := rfl
  fresh := pending.fresh
  applied := FenceTables.stateOf_record_self
  others _ := FenceTables.stateOf_record_of_ne
  newer old found := pending.newer old (List.mem_of_find?_eq_some found)
    (by simpa using List.find?_some found)

section
variable [LedgerLibrary] {fleet : Fleet} {config : FenceConfig}

/-- A step leaves the durable state alone, or applies the command that is committed. -/
theorem FenceInvariant.tables_of_next (invariant : FenceInvariant fleet config)
    (callers : ∀ thread ∈ config.threads, Keeps fleet thread)
    (taken : (replicas fleet).next config action = some later) :
    Unchanged config.shared.tables later.shared.tables ∨
      ∃ i choice thread row, action = .exec i choice ∧ config.threads[i]? = some thread ∧
        phaseOf thread = .written row ∧ Applies config.shared.tables later.shared.tables row := by
  cases action with
  | spawn label =>
    obtain ⟨program, -, rfl⟩ := Machine.next_spawn taken
    exact .inl ⟨rfl, rfl⟩
  | env event =>
    obtain ⟨after, occurs, rfl⟩ := Machine.next_env taken
    refine .inl ?_
    cases event with
    | rollback i =>
      dsimp only [replicas, FenceStore.occur] at occurs
      split at occurs
      · cases occurs
        exact ⟨rfl, rfl⟩
      · cases occurs
    | _ =>
      cases occurs
      exact ⟨rfl, rfl⟩
  | exec i choice =>
    obtain ⟨label, past, call, next, answer, after, active, done, rfl⟩ := Machine.next_exec taken
    have keeps := callers _ (List.mem_of_getElem? active)
    have mine := invariant.fits i _ active
    rcases tables_of_effect (fenceEffect_of_exec done) keeps.1 mine with
      ⟨sequence, -, same⟩ | ⟨row, session, -, at_, open_, same⟩
    · refine .inl ?_
      rw [same]
      exact ⟨rfl, rfl⟩
    refine .inr ⟨i, choice, _, row, rfl, active, at_, ?_⟩
    have held := mine (by rw [phaseOf, at_]; simp) session open_
    rw [phaseOf, at_] at held
    rw [same]
    exact (held.pending row (List.mem_singleton_self _)).applies

variable {start : FenceTables}

section
variable (sound : start.Sound) (reached : (replicas fleet).Reaches ⟨{ tables := start }, []⟩ config)
include sound reached

theorem tables_of_next (taken : (replicas fleet).next config action = some later) :
    Unchanged config.shared.tables later.shared.tables ∨
      ∃ i choice thread row, action = .exec i choice ∧ config.threads[i]? = some thread ∧
        phaseOf thread = .written row ∧ Applies config.shared.tables later.shared.tables row :=
  (fenceInvariant_of_reaches sound reached).tables_of_next
    (fun _ present => caller_of_reaches reached present) taken

/-- No recorded command is ever lost. -/
theorem commands_of_reaches (ran : (replicas fleet).Reaches config later) :
    ∀ row ∈ config.shared.tables.commands, row ∈ later.shared.tables.commands := by
  intro row present
  induction ran with
  | refl => exact present
  | tail action before taken ih =>
    rcases tables_of_next sound (reached.trans before) taken with
      ⟨same, -⟩ | ⟨_, _, _, new, -, -, -, applies⟩
    · rw [same]
      exact ih
    · rw [applies.recorded]
      simp [ih]

end

/-- What is said of the fence tables in a state of a run. -/
structure Serialised (fleet : Fleet) (config : FenceConfig) : Prop where
  /-- The state of an environment is that of the command that was recorded last, and its
  version the greatest. -/
  last : ∀ environment row, config.shared.tables.lastCommand environment = some row →
    config.shared.tables.stateOf environment = some row.state ∧
      ∀ old ∈ config.shared.tables.commands, old.environment = environment →
        old.fenceVersion ≤ row.fenceVersion
  /-- A step changes nothing, or applies one command with a new id and a newer version. -/
  step : ∀ action later, (replicas fleet).next config action = some later →
    Unchanged config.shared.tables later.shared.tables ∨
      ∃ row, Applies config.shared.tables later.shared.tables row
  /-- An id that was applied is never applied again. -/
  once : ∀ action later row, (replicas fleet).next config action = some later →
    Applies config.shared.tables later.shared.tables row →
    ∀ second action' third row', (replicas fleet).Reaches later second →
      (replicas fleet).next second action' = some third →
      Applies second.shared.tables third.shared.tables row' → row'.commandID ≠ row.commandID
  /-- A call whose id is recorded changes nothing, and does not succeed unless its content,
  all that is signed, is what was recorded. -/
  refused : ∀ (i : Nat) (thread : FenceThread) (c d : FenceCommand) (version : Nat),
    config.threads[i]? = some thread → thread.label.task = .record c →
    CommandRow.of d version ∈ config.shared.tables.commands → c.commandID = d.commandID →
    (∀ choice later, (replicas fleet).next config (.exec i choice) = some later →
      Unchanged config.shared.tables later.shared.tables) ∧
    (c.unsigned ≠ d.unsigned → thread.rest = .ret (.ended none) →
      Collision (canonicalCommand c) (canonicalCommand d))

/-- Every interleaving of calls on any number of replicas applies commands one after the
other. -/
theorem fence_commands_are_serialised (sound : start.Sound)
    (reached : (replicas fleet).Reaches ⟨{ tables := start }, []⟩ config) :
    Serialised fleet config where
  last := by
    intro environment row last
    have sound := (fenceInvariant_of_reaches sound reached).sound
    exact ⟨sound.agrees environment row last, fun old present placed =>
      sound.le_last last present placed⟩
  step := by
    intro action later taken
    rcases tables_of_next sound reached taken with same | ⟨_, _, _, row, -, -, -, applies⟩
    · exact .inl same
    · exact .inr ⟨row, applies⟩
  once := by
    intro action later row taken applies second action' third row' ran again applies' same
    have recorded : row ∈ later.shared.tables.commands := by
      rw [applies.recorded]
      simp
    have kept := commands_of_reaches sound (.tail action reached taken) ran row recorded
    exact applies'.fresh row kept same.symm
  refused := by
    intro i thread c d version present task recorded sameID
    have invariant := fenceInvariant_of_reaches sound reached
    refine ⟨fun choice later taken => ?_, fun differs ended => ?_⟩
    · rcases tables_of_next sound reached taken with
        same | ⟨j, other, writer, row, same, active, at_, applies⟩
      · exact same
      cases same
      obtain rfl := Option.some.inj (present.symm.trans active)
      have listed : row ∈ (phaseOf thread).commands := by
        rw [at_]
        exact List.mem_singleton_self _
      obtain ⟨own, v, about, rfl⟩ := invariant.owned thread (List.mem_of_getElem? active) row listed
      rw [task] at about
      cases about
      exact absurd sameID.symm (applies.fresh _ recorded)
    have keeps := caller_of_reaches reached (List.mem_of_getElem? present)
    rw [Keeps, ended, task] at keeps
    obtain ⟨row, learnt, hash, action, -⟩ := keeps rfl
    obtain ⟨listed, named⟩ := invariant.recorded thread (List.mem_of_getElem? present) _ learnt
    obtain rfl : row = CommandRow.of d version :=
      List.inj_on_of_nodup_map invariant.sound.ids listed recorded (named.trans sameID)
    rcases unsigned_of_commandHash (c := c) (d := d) action.symm hash.symm with equal | collide
    · exact absurd equal differs
    · exact collide

end

/-! ## A first run -/

def openProd : FenceCommand where
  commandID := "open-0001"
  action := .open
  reason := "resume"
  environment := "prod"
  sourceAlerts := ["drill"]
  issuedAt := ⟨"2026-01-01T00:00:00Z", by decide⟩
  expiresAt := ⟨"2026-01-01T00:10:00Z", by decide⟩
  nonce := "0123456789abcdef"
  signer := "ops"
  signature :=
    "aGUNnQspaq2IwaocyVYyQBLmtMjtduvFe9Kzg6MoG8YGjH+DqDWHiCbgkP07FxrGzZ1IfM3pgqaHxF05dV4gDQ=="

def fenceProd : FenceCommand :=
  { openProd with
    commandID := "fence-0001"
    action := .fence
    reason := "halt"
    signature :=
      "id/9xKOKuPC6Qwph/GXkf1wyX7qYn4r8UsGn6Hk7Ak1UzDCnUASzIlqJjQR166Q2gmTAuAL9suA5SRGSb0HbDw==" }

def dollarService : PostingService where
  client := some ⟨⟨[("USD", 1)], 1⟩⟩

def opsKey : List UInt8 :=
  bigEndian 32 0x68b223387305efce29d56907a7eaf7ddaff6c15ba4728652b41c5e4337b1fe02

/-- Replicas of one environment that verify the Ed25519 signatures of the two commands and no
others, with the ten minutes of the commands. -/
def prodFleet : Fleet where
  library :=
    { instant := fun stamp => if stamp = openProd.issuedAt then 0 else 600000000000
      base64 := Base64.decodeString
      verify := fun key message signature => key = opsKey && [openProd, fenceProd].any fun c =>
        message = bytes (canonicalCommand c) && Base64.decode c.signature.toList = some signature }
  lockKey _ := 0
  fence replica := ⟨replica, "prod", true, opsKey, by decide⟩
  own _ := rfl
  inner _ := dollarService

def recorded (thread : Nat) : List (Action FenceJob FenceChoice FenceEvent) :=
  List.replicate 6 (.exec thread .proceeds)

theorem sound_empty : FenceTables.Sound {} where
  ids := List.nodup_nil
  environments := List.nodup_nil
  actions := nofun
  ordered := .nil
  bounded := nofun
  issued := nofun
  agrees _ _ := nofun

/-- Two replicas record the two commands. -/
theorem prod_commands_are_serialised :
    FenceTables.Sound {} ∧ ∃ config, (@replicas asciiLedger prodFleet).Reaches ⟨{}, []⟩ config ∧
      config.shared.tables.stateOf "prod" = some (CommandRow.of fenceProd 2).state ∧
      @Serialised asciiLedger prodFleet config := by
  let := asciiLedger
  have played : ∃ config, (replicas prodFleet).Reaches ⟨{}, []⟩ config ∧
      config.shared.tables.stateOf "prod" = some (CommandRow.of fenceProd 2).state :=
    Machine.exists_of_replay ([.spawn ⟨0, .record openProd⟩, .spawn ⟨1, .record fenceProd⟩] ++
      recorded 0 ++ recorded 1) (by decide)
  obtain ⟨config, reached, state⟩ := played
  exact ⟨sound_empty, config, reached, state, fence_commands_are_serialised sound_empty reached⟩

end UmojaFlowOS.Fencing
