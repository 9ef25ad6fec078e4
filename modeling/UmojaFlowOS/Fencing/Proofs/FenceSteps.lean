import UmojaFlowOS.Fencing.Proofs.FenceContract

/-!
# What the statements on the fence tables do

The tables a recorded command leaves, and every answer that a caller is given with the state
it leaves.
-/

namespace UmojaFlowOS.Fencing

open Interaction Relational

/-! ## The tables -/

namespace FenceTables

def lastCommand (t : FenceTables) (environment : String) : Option CommandRow :=
  (t.commands.filter (·.environment = environment)).getLast?

def record (t : FenceTables) (row : CommandRow) : FenceTables :=
  { t with commands := t.commands ++ [row], states := upsert row.state t.states }

/-- Keys are unique, versions increase, and a state is that of the last command of its
environment. -/
structure Sound (t : FenceTables) : Prop where
  ids : (t.commands.map (·.commandID)).Nodup
  environments : (t.states.map (·.environment)).Nodup
  actions : ∀ row ∈ t.commands, row.action.supported = true
  ordered : t.commands.Pairwise fun first second =>
    first.environment = second.environment → first.fenceVersion < second.fenceVersion
  bounded : ∀ row ∈ t.commands, row.fenceVersion ≤ t.sequence
  issued : ∀ row ∈ t.states, row.fenceVersion ≤ t.sequence
  agrees : ∀ environment row, t.lastCommand environment = some row →
    t.stateOf environment = some row.state

/-- A command that can be recorded: its id is new and its version the newest of its
environment. -/
structure Pending (t : FenceTables) (row : CommandRow) : Prop where
  fresh : ∀ old ∈ t.commands, old.commandID ≠ row.commandID
  supported : row.action.supported = true
  newest : ∀ old ∈ t.commands, old.environment = row.environment →
    old.fenceVersion < row.fenceVersion
  newer : ∀ old ∈ t.states, old.environment = row.environment → old.fenceVersion < row.fenceVersion
  bounded : row.fenceVersion ≤ t.sequence

variable {t : FenceTables} {row : CommandRow} {environment : String}

theorem find?_upsert_self (row : StateRow) (states : List StateRow) :
    (upsert row states).find? (·.environment = row.environment) = some row := by
  unfold upsert
  by_cases present : states.any (·.environment = row.environment) = true
  · rw [if_pos present, updateWhere]
    induction states with
    | nil => cases present
    | cons first states ih =>
      rw [List.map_cons]
      by_cases same : first.environment = row.environment
      · rw [if_pos (by simpa using same), List.find?_cons_of_pos (by simp)]
      have later : states.any (·.environment = row.environment) = true := by
        simpa [same] using present
      rw [if_neg (by simpa using same), List.find?_cons_of_neg (by simpa using same)]
      exact ih later
  rw [if_neg present, List.find?_append]
  have none_ : states.find? (·.environment = row.environment) = none := by
    simpa using present
  rw [none_, List.find?_cons_of_pos (by simp)]
  rfl

theorem find?_upsert_of_ne {row : StateRow} (states : List StateRow)
    (other : environment ≠ row.environment) :
    (upsert row states).find? (·.environment = environment) =
      states.find? (·.environment = environment) := by
  have updated : (updateWhere (fun old => old.environment = row.environment) (fun _ => row)
      states).find? (·.environment = environment) = states.find? (·.environment = environment) := by
    rw [updateWhere]
    induction states with
    | nil => rfl
    | cons first states ih =>
      rw [List.map_cons, List.find?_cons, List.find?_cons, ih]
      by_cases same : first.environment = row.environment
      · simp [same, other.symm]
      · simp [same]
  unfold upsert
  split
  · exact updated
  · rw [List.find?_append]
    simp [other.symm]

theorem mem_upsert {row old : StateRow} {states : List StateRow}
    (present : old ∈ upsert row states) :
    old = row ∨ old ∈ states ∧ old.environment ≠ row.environment := by
  unfold upsert at present
  split at present
  · rcases mem_updateWhere.mp present with ⟨_, _, _, same⟩ | ⟨kept, other⟩
    · exact .inl same.symm
    · exact .inr ⟨kept, by simpa using other⟩
  rename_i absent
  rcases List.mem_append.mp present with kept | new
  · refine .inr ⟨kept, fun same => absent ?_⟩
    exact List.any_eq_true.mpr ⟨old, kept, by simpa using same⟩
  · exact .inl (List.mem_singleton.mp new)

theorem nodup_upsert {row : StateRow} {states : List StateRow}
    (unique : (states.map (·.environment)).Nodup) :
    ((upsert row states).map (·.environment)).Nodup := by
  unfold upsert
  split
  · have kept : (updateWhere (fun old => old.environment = row.environment) (fun _ => row)
        states).map (·.environment) = states.map (·.environment) := by
      rw [updateWhere, List.map_map]
      refine List.map_congr_left fun old _ => ?_
      by_cases same : old.environment = row.environment
      · simp [same]
      · simp [same]
    rw [kept]
    exact unique
  rename_i absent
  refine nodup_map_concat unique fun old present same => absent ?_
  exact List.any_eq_true.mpr ⟨old, present, by simpa using same⟩

theorem stateOf_record_self : (t.record row).stateOf row.environment = some row.state :=
  find?_upsert_self row.state t.states

theorem stateOf_record_of_ne (other : environment ≠ row.environment) :
    (t.record row).stateOf environment = t.stateOf environment :=
  find?_upsert_of_ne t.states other

theorem lastCommand_record_self : (t.record row).lastCommand row.environment = some row := by
  rw [lastCommand, record, List.filter_append, List.filter_singleton]
  simp

theorem lastCommand_record_of_ne (other : environment ≠ row.environment) :
    (t.record row).lastCommand environment = t.lastCommand environment := by
  have skipped : decide (row.environment = environment) = false := by simpa using other.symm
  rw [lastCommand, record, List.filter_append, List.filter_singleton, skipped]
  simp [lastCommand]

/-- Recording a pending command keeps the tables in agreement. -/
theorem Sound.record (sound : t.Sound) (pending : t.Pending row) : (t.record row).Sound where
  ids := nodup_map_concat sound.ids pending.fresh
  environments := nodup_upsert sound.environments
  actions := by
    intro old present
    rcases mem_concat.mp present with kept | rfl
    · exact sound.actions old kept
    · exact pending.supported
  ordered := by
    refine List.pairwise_append.mpr ⟨sound.ordered, List.pairwise_singleton _ _, ?_⟩
    intro old present new last same
    obtain rfl := List.mem_singleton.mp last
    exact pending.newest old present same
  bounded := by
    intro old present
    rcases mem_concat.mp present with kept | rfl
    · exact sound.bounded old kept
    · exact pending.bounded
  issued := by
    intro old present
    rcases mem_upsert present with rfl | ⟨kept, -⟩
    · exact pending.bounded
    · exact sound.issued old kept
  agrees := by
    intro environment last found
    by_cases same : environment = row.environment
    · subst same
      rw [lastCommand_record_self] at found
      cases found
      exact stateOf_record_self
    rw [lastCommand_record_of_ne same] at found
    rw [stateOf_record_of_ne same]
    exact sound.agrees environment last found

/-- The command recorded last has the newest version. -/
theorem Sound.le_last (sound : t.Sound)
    (last : t.lastCommand environment = some row) (present : old ∈ t.commands)
    (placed : old.environment = environment) : old.fenceVersion ≤ row.fenceVersion := by
  obtain ⟨front, ends⟩ := List.getLast?_eq_some_iff.mp last
  have listed : old ∈ t.commands.filter (·.environment = environment) :=
    List.mem_filter.mpr ⟨present, by simpa using placed⟩
  have home : row.environment = environment := by
    have member : row ∈ t.commands.filter (·.environment = environment) := by
      rw [ends]
      simp
    simpa using (List.mem_filter.mp member).2
  have ordered := sound.ordered.filter fun row => decide (row.environment = environment)
  rw [ends] at listed ordered
  rcases List.mem_append.mp listed with before | same
  · have less := (List.pairwise_append.mp ordered).2.2 old before row (by simp)
    exact Nat.le_of_lt (less (placed.trans home.symm))
  · rw [List.mem_singleton.mp same]

theorem Sound.advance {sequence : Nat} (sound : t.Sound) (later : t.sequence ≤ sequence) :
    ({ t with sequence := sequence } : FenceTables).Sound where
  ids := sound.ids
  environments := sound.environments
  actions := sound.actions
  ordered := sound.ordered
  bounded row present := (sound.bounded row present).trans later
  issued row present := (sound.issued row present).trans later
  agrees := sound.agrees

theorem Pending.advance {sequence : Nat} (pending : t.Pending row) (later : t.sequence ≤ sequence) :
    ({ t with sequence := sequence } : FenceTables).Pending row where
  fresh := pending.fresh
  supported := pending.supported
  newest := pending.newest
  newer := pending.newer
  bounded := pending.bounded.trans later

theorem Pending.record (pending : t.Pending row)
    (ids : new.commandID ≠ row.commandID) (other : new.environment ≠ row.environment) :
    (t.record new).Pending row where
  fresh := by
    intro old present
    rcases mem_concat.mp present with kept | rfl
    · exact pending.fresh old kept
    · exact ids
  supported := pending.supported
  newest := by
    intro old present same
    rcases mem_concat.mp present with kept | rfl
    · exact pending.newest old kept same
    · exact absurd same other
  newer := by
    intro old present same
    rcases mem_upsert present with rfl | ⟨kept, -⟩
    · exact absurd same other
    · exact pending.newer old kept same
  bounded := pending.bounded

/-- The next value of the sequence belongs to a command that can be recorded. -/
theorem Sound.pending_of (sound : t.Sound) (fresh : ∀ old ∈ t.commands, old.commandID ≠ c.commandID)
    (supported : c.action.supported = true) :
    ({ t with sequence := t.sequence + 1 } : FenceTables).Pending
      (CommandRow.of c (t.sequence + 1)) where
  fresh := fresh
  supported := supported
  newest old present _ := Nat.lt_succ_of_le (sound.bounded old present)
  newer old present _ := Nat.lt_succ_of_le (sound.issued old present)
  bounded := Nat.le_refl _

end FenceTables

/-! ## The statements -/

/-- After this answer the caller is outside of a transaction, and has learnt nothing. -/
def Ends (event : Event fenceCalls) : Prop :=
  ∀ phase : FencePhase, phase.after event = .outside ∧ phase.learns event = []

/-- The answer tells nothing of a transaction, unless that it is over. -/
def Idle (event : Event fenceCalls) : Prop :=
  ∀ phase : FencePhase,
    (phase.after event = phase ∨ phase.after event = .outside) ∧ phase.learns event = []

inductive FenceEffect (db : FenceDatabase) (s : FenceStore) (i : Nat) :
    (call : FenceCall) → call.Answer → FenceStore → Prop
  | idle (idle : Idle ⟨call, answer⟩) : FenceEffect db s i call answer s
  | applies (replica : Nat) (c : FenceCommand) : FenceEffect db s i (.applyLocal replica c) ()
        (s.setLocal replica ((s.locals replica).apply c))
  | sets (replica : Nat) (state : FenceState) : FenceEffect db s i (.setLocal replica state) ()
        (s.setLocal replica ((s.locals replica).set state))
  | spoils (ends : Ends ⟨call, answer⟩) : FenceEffect db s i call answer (s.spoil i)
  | closes (ends : Ends ⟨call, answer⟩) : FenceEffect db s i call answer (s.close i)
  | begins : FenceEffect db s i .beginTx none (s.put i {})
  | locks (open_ : s.live i = some session)
      (free : s.sessions.elsewhere i (FenceSession.holdsKey (db.lockKey environment)) = false) :
      FenceEffect db s i (.advisoryLock environment) none
        (s.put i { session with keys := db.lockKey environment :: session.keys })
  | repeats (c : FenceCommand) : FenceEffect db s i (.insertCommand c) (.error .noRows)
        { s with tables := { s.tables with sequence := s.tables.sequence + 1 } }
  | inserts (open_ : s.live i = some session) (storable : c.storable db.instant = true)
      (fresh : ∀ row ∈ s.tables.commands, row.commandID ≠ c.commandID)
      (alone : s.sessions.elsewhere i (FenceSession.inserts c.commandID) = false) :
      FenceEffect db s i (.insertCommand c) (.ok (s.tables.sequence + 1))
        (FenceStore.put { s with tables := { s.tables with sequence := s.tables.sequence + 1 } } i
          { session with
            commands := session.commands ++ [CommandRow.of c (s.tables.sequence + 1)] })
  | finds (open_ : s.live i = some session) (found : s.tables.command commandID = some row) :
      FenceEffect db s i (.selectCommand commandID) (.ok row)
        (s.put i { session with commandLocks := commandID :: session.commandLocks })
  | upserts (open_ : s.live i = some session)
      (free : s.sessions.elsewhere i (FenceSession.holdsState row.environment) = false) :
      FenceEffect db s i (.upsertState row) none (s.put i { session with
        stateLocks := row.environment :: session.stateLocks
        states := session.states ++ [row] })
  | admits (open_ : s.live i = some session) (found : s.tables.stateOf environment = some row)
      (free : s.sessions.elsewhere i (FenceSession.holdsState environment) = false) :
      FenceEffect db s i (.selectState environment) (.ok row)
        (s.put i { session with stateLocks := environment :: session.stateLocks })
  | commits (open_ : s.live i = some session) :
      FenceEffect db s i .commit answer (s.commit i session)

section
variable {db : FenceDatabase} {s : FenceStore} {i : Nat}

theorem effect_insertCommand (done : s.insertCommand db i c = some (answer, after)) :
    FenceEffect db s i (.insertCommand c) answer after := by
  obtain ⟨session, open_, done⟩ := Option.bind_eq_some_iff.mp done
  split at done
  · cases done
    exact .spoils fun _ => ⟨rfl, rfl⟩
  rename_i storable
  split at done
  · cases done
    exact .spoils fun _ => ⟨rfl, rfl⟩
  split at done
  · cases done
  rename_i alone
  split at done
  · cases done
    exact .repeats c
  rename_i absent
  cases done
  refine .inserts open_ (not_not.mp storable) ?_ (by simpa using alone)
  have fresh : s.tables.commands.any (·.commandID = c.commandID) = false := by
    simpa using (not_or.mp (mt Bool.or_eq_true_iff.mpr absent)).1
  simpa using fresh

theorem effect_ledger (done : s.exec db i (.ledger port) choice = some (answer, after)) :
    FenceEffect db s i (.ledger port) answer after := by
  have kept : after = s := by
    cases choice <;>
      exact (Option.map_eq_some_iff.mp done).elim fun _ same => (congrArg Prod.snd same.2).symm
  subst kept
  exact .idle fun phase => ⟨.inl rfl, rfl⟩

/-- Inversion of one call: whatever the choice, it is one of these effects. -/
theorem fenceEffect_of_exec (done : s.exec db i call choice = some (answer, after)) :
    FenceEffect db s i call answer after := by
  cases call
  case ledger port => exact effect_ledger done
  -- Most answers leave the tables alone; the statements that do not are left for the cases below.
  all_goals cases choice <;>
    try (cases done; first
      | done | exact .begins | exact .applies _ _ | exact .sets _ _
      | exact .idle fun _ => ⟨.inl rfl, rfl⟩ | exact .idle fun _ => ⟨.inr rfl, rfl⟩
      | exact .spoils fun _ => ⟨rfl, rfl⟩ | exact .closes fun _ => ⟨rfl, rfl⟩)
  case insertCommand.proceeds => exact effect_insertCommand done
  case advisoryLock.proceeds =>
    obtain ⟨session, open_, done⟩ := Option.bind_eq_some_iff.mp done
    obtain ⟨free, done⟩ := Option.ite_none_left_eq_some.mp done
    cases done
    exact .locks open_ (by simpa using free)
  case upsertState.proceeds =>
    obtain ⟨session, open_, done⟩ := Option.bind_eq_some_iff.mp done
    obtain ⟨free, done⟩ := Option.ite_none_left_eq_some.mp done
    cases done
    exact .upserts open_ (by simpa using free)
  case selectCommand.proceeds =>
    obtain ⟨session, open_, done⟩ := Option.bind_eq_some_iff.mp done
    split at done
    · cases done
      exact .idle fun _ => ⟨.inr rfl, rfl⟩
    rename_i row found
    cases (Option.ite_none_left_eq_some.mp done).2
    exact .finds open_ found
  case selectState.proceeds =>
    obtain ⟨session, open_, done⟩ := Option.bind_eq_some_iff.mp done
    split at done
    · cases done
      exact .idle fun _ => ⟨.inr rfl, rfl⟩
    rename_i row found
    obtain ⟨free, done⟩ := Option.ite_none_left_eq_some.mp done
    cases done
    exact .admits open_ found (by simpa using free)
  case commit.proceeds | commit.loses =>
    obtain ⟨session, open_, done⟩ := Option.map_eq_some_iff.mp done
    cases done
    exact .commits open_

end

end UmojaFlowOS.Fencing
