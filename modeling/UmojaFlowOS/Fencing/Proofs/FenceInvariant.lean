import UmojaFlowOS.Fencing.Proofs.FenceSteps

/-!
# What holds along every run of the replicas

The locks of two transactions are apart, and a transaction holds what its caller has been
told: the advisory lock of the environment while a command is pending, the row lock on the
state while a posting is admitted.
-/

namespace UmojaFlowOS.Fencing

open FenceSession FenceStore Go Interaction Ledger Relational

/-! ## Locks -/

section
variable {db : FenceDatabase} {s after : FenceStore} {session : FenceSession}

theorem get_of_effect (effect : FenceEffect db s i call answer after) (other : j ≠ i) :
    after.sessions.get j = s.sessions.get j := by
  cases effect with
  | idle | applies | sets | repeats => rfl
  | closes | commits => exact Sessions.get_close_of_ne other
  | spoils => exact Sessions.get_spoil_of_ne other
  | _ => exact Sessions.get_put_of_ne other

theorem live_of_effect (effect : FenceEffect db s i call answer after) (other : j ≠ i) :
    after.live j = s.live j :=
  Sessions.live_congr (get_of_effect effect other)

/-- No two transactions hold one lock, or insert one command. -/
structure Separate (s : FenceStore) : Prop where
  keys : Sessions.Apart holdsKey s.sessions
  states : Sessions.Apart holdsState s.sessions
  ids : Sessions.Apart inserts s.sessions

theorem Separate.close (separate : Separate s) (i : Nat) : Separate (s.close i) :=
  ⟨separate.keys.close i, separate.states.close i, separate.ids.close i⟩

theorem Separate.put_empty (separate : Separate s) (failed : Bool) :
    Separate (s.put i { failed := failed }) :=
  ⟨separate.keys.put fun _ _ _ _ _ held => absurd held nofun,
    separate.states.put fun _ _ _ _ _ held => absurd held nofun,
    separate.ids.put fun _ _ _ _ _ held => absurd held nofun⟩

/-- No call takes a lock that another transaction holds. -/
theorem Separate.effect (separate : Separate s) (effect : FenceEffect db s i call answer after) :
    Separate after := by
  cases effect with
  | idle => exact separate
  | applies | sets | repeats => exact ⟨separate.keys, separate.states, separate.ids⟩
  | spoils =>
    exact ⟨separate.keys.spoil i fun _ _ => nofun, separate.states.spoil i fun _ _ => nofun,
      separate.ids.spoil i fun _ _ => nofun⟩
  | closes => exact separate.close i
  | begins => exact separate.put_empty false
  | commits => exact ⟨separate.keys.close i, separate.states.close i, separate.ids.close i⟩
  | locks open_ free =>
    have held := Sessions.get_of_live open_
    exact ⟨separate.keys.extend held free fun key => by simp [holdsKey],
      separate.states.update held fun _ => id, separate.ids.update held fun _ => id⟩
  | @inserts _ c open_ _ _ alone =>
    have held := Sessions.get_of_live open_
    refine ⟨separate.keys.update held fun _ => id, separate.states.update held fun _ => id,
      separate.ids.extend held alone fun key inserted => ?_⟩
    simp only [inserts, List.any_append, Bool.or_eq_true] at inserted
    rcases inserted with before | new
    · exact .inr before
    · have same : c.commandID = key := by simpa [CommandRow.of] using new
      exact .inl same.symm
  | finds open_ found =>
    have held := Sessions.get_of_live open_
    exact ⟨separate.keys.update held fun _ => id, separate.states.update held fun _ => id,
      separate.ids.update held fun _ => id⟩
  | upserts open_ free | admits open_ found free =>
    have held := Sessions.get_of_live open_
    exact ⟨separate.keys.update held fun _ => id,
      separate.states.extend held free fun key => by simp [holdsState],
      separate.ids.update held fun _ => id⟩

end

/-! ## What a transaction holds -/

def FencePhase.keys : FencePhase → List String
  | locked environment => [environment]
  | inserted row => [row.environment]
  | written row => [row.environment]
  | _ => []

def FencePhase.stateLocks : FencePhase → List String
  | written row => [row.environment]
  | admitted environment _ => [environment]
  | _ => []

/-- A transaction is as its caller has been told. -/
structure Fits (lockKey : String → UInt64) (t : FenceTables) (session : FenceSession)
    (phase : FencePhase) : Prop where
  commands : session.commands = phase.commands
  states : session.states = phase.states
  keys : ∀ environment ∈ phase.keys, session.holdsKey (lockKey environment) = true
  locks : ∀ environment ∈ phase.stateLocks, session.holdsState environment = true
  pending : ∀ row ∈ phase.commands, t.Pending row
  admitted : ∀ environment row, phase = .admitted environment row →
    t.stateOf environment = some row ∧ row.fenced = false

section
variable {db : FenceDatabase} {s after : FenceStore} {session : FenceSession}
  {lockKey : String → UInt64} {t : FenceTables} {phase : FencePhase} {task : FenceTask}
  {seen : FenceSeen}

theorem Fits.advance {sequence : Nat} (fits : Fits lockKey t session phase)
    (later : t.sequence ≤ sequence) :
    Fits lockKey { t with sequence := sequence } session phase where
  commands := fits.commands
  states := fits.states
  keys := fits.keys
  locks := fits.locks
  pending row present := (fits.pending row present).advance later
  admitted := fits.admitted

/-- What another transaction records is of another environment than what is pending or
admitted here. -/
theorem Fits.record (separate : Separate s) (other : j ≠ i)
    (active : s.live i = some mine) (writes : Fits lockKey s.tables mine (.written row))
    (open_ : s.live j = some session) (fits : Fits lockKey s.tables session phase) :
    Fits lockKey (s.tables.record row) session phase := by
  have here := Sessions.get_of_live active
  have there := Sessions.get_of_live open_
  refine ⟨fits.commands, fits.states, fits.keys, fits.locks, ?_, ?_⟩
  · intro pending present
    have inserted : mine.inserts row.commandID = true := by
      rw [inserts, writes.commands]
      simp [FencePhase.commands]
    have inserts : session.inserts pending.commandID = true := by
      rw [inserts, fits.commands]
      exact List.any_eq_true.mpr ⟨pending, present, by simp⟩
    have key : pending.environment ∈ phase.keys := by
      cases phase with
      | inserted | written =>
        exact List.mem_singleton.mpr (congrArg _ (List.mem_singleton.mp present))
      | _ => cases present
    refine (fits.pending pending present).record ?_ ?_
    · intro same
      have apart := separate.ids i j mine session here there other.symm row.commandID inserted
      rw [same, inserts] at apart
      cases apart
    intro same
    have apart := separate.keys i j mine session here there other.symm (lockKey row.environment)
      (writes.keys _ (List.mem_singleton_self _))
    rw [same, fits.keys _ key] at apart
    cases apart
  rintro environment state rfl
  have different : environment ≠ row.environment := by
    intro same
    have apart := separate.states i j mine session here there other.symm row.environment
      (writes.locks _ (List.mem_singleton_self _))
    rw [← same, fits.locks _ (List.mem_singleton_self _)] at apart
    cases apart
  rw [FenceTables.stateOf_record_of_ne different]
  exact fits.admitted environment state rfl

/-- What an answer leaves in the tables. -/
inductive TableStep (t : FenceTables) : FenceTables → Prop
  | keeps {sequence : Nat} (later : t.sequence ≤ sequence) :
      TableStep t { t with sequence := sequence }
  | records (pending : t.Pending row) : TableStep t (t.record row)

theorem TableStep.sound (sound : t.Sound) (step : TableStep t t') : t'.Sound := by
  cases step with
  | keeps later => exact sound.advance later
  | records pending => exact sound.record pending

/-- A call uses up values of the sequence, or commits the pending command. -/
theorem tables_of_effect (effect : FenceEffect db s i call answer after)
    (permitted : seen.permits f task call)
    (fits : seen.phase ≠ .outside → ∀ session, s.live i = some session →
      Fits lockKey s.tables session seen.phase) :
    (∃ sequence, s.tables.sequence ≤ sequence ∧
      after.tables = { s.tables with sequence := sequence }) ∨
    ∃ row session, call = .commit ∧ seen.phase = .written row ∧ s.live i = some session ∧
      after.tables = s.tables.record row := by
  cases effect with
  | repeats | inserts => exact .inl ⟨_, Nat.le_succ _, rfl⟩
  | commits open_ =>
    rename_i session _
    have held := fits permitted.1 session open_
    have same : s.tables.commands ++ [] = s.tables.commands := List.append_nil _
    have left : (s.commit i session).tables =
        { s.tables with
          commands := s.tables.commands ++ seen.phase.commands
          states := seen.phase.states.foldl (fun states row => FenceTables.upsert row states)
            s.tables.states } := by
      rw [commit, held.commands, held.states]
    rw [left]
    cases at_ : seen.phase with
    | written row => exact .inr ⟨row, session, rfl, rfl, open_, rfl⟩
    | inserted row =>
      have whole := permitted.2
      rw [at_] at whole
      cases whole
    | _ =>
      refine .inl ⟨_, Nat.le_refl _, ?_⟩
      dsimp only [FencePhase.commands, FencePhase.states, List.foldl_nil]
      rw [same]
  | _ => exact .inl ⟨_, Nat.le_refl _, rfl⟩

/-- The transaction of a caller stays as the caller was told. -/
theorem fits_of_effect (effect : FenceEffect db s i call answer after)
    (locking : lockKey = db.lockKey) (permitted : seen.permits f task call) (sound : s.tables.Sound)
    (fits : seen.phase ≠ .outside → ∀ session, s.live i = some session →
      Fits lockKey s.tables session seen.phase)
    (inside : seen.phase.after ⟨call, answer⟩ ≠ .outside) (open_ : after.live i = some session) :
    Fits lockKey after.tables session (seen.phase.after ⟨call, answer⟩) := by
  have put {t : FenceStore} {new : FenceSession} (held : (t.put i new).live i = some session)
      (sound : new.failed = false) : session = new := by
    exact Option.some.inj (held.symm.trans (Sessions.live_put_self sound))
  cases effect with
  | idle idle =>
    rcases (idle seen.phase).1 with same | ended
    · rw [same] at inside ⊢
      exact fits inside session open_
    · exact absurd ended inside
  | applies | sets => exact fits inside session open_
  | spoils ends | closes ends => exact absurd (ends seen.phase).1 inside
  | commits => exact absurd rfl inside
  | begins =>
    cases put open_ rfl
    exact ⟨rfl, rfl, nofun, nofun, nofun, nofun⟩
  | locks before free =>
    cases put open_ (Sessions.live_eq_some_iff.mp before).2
    cases at_ : seen.phase with
    | begun =>
      have held := fits (by rw [at_]; exact nofun) _ before
      rw [at_] at held
      refine ⟨held.commands, held.states, ?_, nofun, nofun, nofun⟩
      intro environment present
      obtain rfl := List.mem_singleton.mp present
      simp [holdsKey, locking]
    | _ =>
      rw [at_] at inside
      exact absurd rfl inside
  | repeats c =>
    have held := fits (by rw [permitted.1]; exact nofun) session open_
    rw [permitted.1] at held
    exact ⟨held.commands, held.states, nofun, nofun, nofun, nofun⟩
  | inserts before storable fresh alone =>
    rename_i _ c
    cases put open_ (Sessions.live_eq_some_iff.mp before).2
    have held := fits (by rw [permitted.1]; exact nofun) _ before
    rw [permitted.1] at held
    have supported : c.action.supported = true := by
      simp only [FenceCommand.storable, Bool.and_eq_true] at storable
      exact storable.1.1.1.1.1.1.1.1.1.2
    refine ⟨?_, held.states, held.keys, nofun, ?_, nofun⟩
    · rw [held.commands]
      rfl
    intro row present
    obtain rfl := List.mem_singleton.mp present
    exact sound.pending_of fresh supported
  | finds before found =>
    cases put open_ (Sessions.live_eq_some_iff.mp before).2
    have held := fits inside _ before
    exact ⟨held.commands, held.states, held.keys, held.locks, held.pending, held.admitted⟩
  | upserts before free =>
    cases put open_ (Sessions.live_eq_some_iff.mp before).2
    obtain ⟨row, at_, rfl⟩ := permitted
    have held := fits (by rw [at_]; exact nofun) _ before
    rw [at_] at held ⊢
    refine ⟨held.commands, ?_, held.keys, ?_, held.pending, nofun⟩
    · rw [held.states]
      rfl
    intro environment present
    obtain rfl := List.mem_singleton.mp present
    simp [holdsState, CommandRow.state]
  | admits before found free =>
    rename_i _ environment row
    cases put open_ (Sessions.live_eq_some_iff.mp before).2
    have begun : seen.phase = .begun := permitted
    have held := fits (by rw [begun]; exact nofun) _ before
    rw [begun] at held
    have open_ : ¬ (row.fenced = true ∨ row.fenceVersion = 0) := fun refused =>
      absurd (if_pos refused) inside
    have admitted : seen.phase.after ⟨.selectState environment, .ok row⟩ =
        .admitted environment row := if_neg open_
    rw [admitted]
    refine ⟨held.commands, held.states, nofun, ?_, nofun, ?_⟩
    · intro other present
      obtain rfl := List.mem_singleton.mp present
      simp [holdsState]
    intro other state same
    cases same
    exact ⟨found, Bool.eq_false_iff.mpr (not_or.mp open_).1⟩

end

/-! ## Every run -/

abbrev phaseOf (thread : FenceThread) : FencePhase := (fenceSeenIn thread.past).phase

structure FenceInvariant (fleet : Fleet) (config : FenceConfig) : Prop where
  sound : config.shared.tables.Sound
  separate : Separate config.shared
  fits : ∀ (i : Nat) (thread : FenceThread), config.threads[i]? = some thread →
    phaseOf thread ≠ .outside → ∀ session, config.shared.live i = some session →
    Fits fleet.lockKey config.shared.tables session (phaseOf thread)
  recorded : ∀ thread ∈ config.threads, ∀ entry ∈ (fenceSeenIn thread.past).recorded,
    entry.2 ∈ config.shared.tables.commands ∧ entry.2.commandID = entry.1
  owned : ∀ thread ∈ config.threads, ∀ row ∈ (phaseOf thread).commands,
    ∃ c version, thread.label.task.command = some c ∧ row = CommandRow.of c version
  taken : ∀ replica, (fleet.fence replica).durable = true →
    ∀ commandID ∈ (config.shared.locals replica).seen, ∃ row ∈ config.shared.tables.commands,
      row.commandID = commandID ∧ row.environment = (fleet.fence replica).environment

section
variable {db : FenceDatabase} {s after : FenceStore} {task : FenceTask} {seen : FenceSeen}

section
variable (effect : FenceEffect db s i call answer after)
include effect

theorem commands_of_effect (permitted : seen.permits f task call)
    (present : row ∈ (seen.phase.after ⟨call, answer⟩).commands) :
    row ∈ seen.phase.commands ∨
      ∃ c version, task.command = some c ∧ row = CommandRow.of c version := by
  cases effect with
  | idle idle =>
    rcases (idle seen.phase).1 with same | ended
    · rw [same] at present
      exact .inl present
    · rw [ended] at present
      cases present
  | applies | sets | finds => exact .inl present
  | spoils ends | closes ends =>
    rw [(ends seen.phase).1] at present
    cases present
  | commits | begins | repeats => cases present
  | locks =>
    cases at_ : seen.phase with
    | _ =>
      rw [at_] at present
      cases present
  | inserts => exact .inr ⟨_, _, permitted.2, List.mem_singleton.mp present⟩
  | upserts =>
    obtain ⟨inserted, at_, -⟩ := permitted
    rw [at_] at present ⊢
    exact .inl present
  | @admits _ environment row =>
    have none_ : (seen.phase.after ⟨.selectState environment, .ok row⟩).commands = [] := by
      dsimp only [FencePhase.after]
      split <;> rfl
    rw [none_] at present
    cases present

theorem learns_of_effect (permitted : seen.permits f task call)
    (fits : seen.phase ≠ .outside → ∀ session, s.live i = some session →
      Fits lockKey s.tables session seen.phase)
    (learnt : entry ∈ seen.phase.learns ⟨call, answer⟩) :
    entry.2 ∈ after.tables.commands ∧ entry.2.commandID = entry.1 := by
  cases effect with
  | idle idle =>
    rw [(idle seen.phase).2] at learnt
    cases learnt
  | spoils ends | closes ends =>
    rw [(ends seen.phase).2] at learnt
    cases learnt
  | finds open_ found =>
    obtain rfl := List.mem_singleton.mp learnt
    exact ⟨List.mem_of_find?_eq_some found, by simpa using List.find?_some found⟩
  | @commits session answer open_ =>
    rcases answer with _ | err
    case some => cases learnt
    obtain ⟨row, present, rfl⟩ := List.mem_map.mp learnt
    refine ⟨List.mem_append_right _ ?_, rfl⟩
    rw [(fits permitted.1 session open_).commands]
    exact present
  | _ => cases learnt

theorem seen_of_effect (seen : commandID ∈ (after.locals replica).seen) :
    commandID ∈ (s.locals replica).seen ∨
      ∃ c, call = .applyLocal replica c ∧ commandID = c.commandID := by
  cases effect with
  | applies place c =>
    by_cases same : replica = place
    · subst same
      simp only [setLocal, if_true, LocalFence.apply] at seen
      split at seen
      · exact .inl seen
      rcases List.mem_cons.mp seen with new | old
      · exact .inr ⟨c, rfl, new⟩
      · exact .inl old
    · simp only [setLocal, if_neg same] at seen
      exact .inl seen
  | sets place state =>
    by_cases same : replica = place
    · subst same
      simp only [setLocal, if_true] at seen
      exact .inl seen
    · simp only [setLocal, if_neg same] at seen
      exact .inl seen
  | _ => exact .inl seen

end

end

variable {fleet : Fleet} {config later : FenceConfig}

section
variable (invariant : FenceInvariant fleet config)
include invariant

theorem FenceInvariant.exec (active : config.threads[i]? = some ⟨label, past, .call call next⟩)
    (permitted : (fenceSeenIn past).permits (fleet.fence label.replica) label.task call)
    (effect : FenceEffect fleet.database config.shared i call answer after) :
    FenceInvariant fleet
      ⟨after, config.threads.set i ⟨label, past ++ [⟨call, answer⟩], next answer⟩⟩ := by
  have mine := invariant.fits i _ active
  have tables := tables_of_effect effect permitted mine
  have step : TableStep config.shared.tables after.tables := by
    rcases tables with ⟨sequence, later, same⟩ | ⟨row, session, -, at_, open_, same⟩
    · rw [same]
      exact .keeps later
    rw [same]
    have held := mine (by rw [phaseOf, at_]; exact nofun) session open_
    rw [phaseOf, at_] at held
    exact .records (held.pending row (List.mem_singleton_self _))
  have grows : ∀ row ∈ config.shared.tables.commands, row ∈ after.tables.commands := by
    intro row present
    rcases tables with ⟨sequence, later, same⟩ | ⟨new, session, -, at_, open_, same⟩
    · rw [same]
      exact present
    · rw [same]
      exact List.mem_append_left _ present
  have known := invariant.recorded _ (List.mem_of_getElem? active)
  refine ⟨step.sound invariant.sound, invariant.separate.effect effect, ?_, ?_, ?_, ?_⟩
  · intro j thread present inside session open_
    rcases getElem?_set_cases present with ⟨rfl, rfl⟩ | ⟨other, present⟩
    · rw [phaseOf, fenceSeenIn_concat] at inside ⊢
      exact fits_of_effect effect rfl permitted invariant.sound mine inside open_
    have before : config.shared.live j = some session := by
      rw [← live_of_effect effect other]
      exact open_
    have fits := invariant.fits j thread present inside session before
    rcases tables with ⟨sequence, later, same⟩ | ⟨row, writing, -, at_, writes, same⟩
    · rw [same]
      exact fits.advance later
    rw [same]
    have held := mine (by rw [phaseOf, at_]; exact nofun) writing writes
    rw [phaseOf, at_] at held
    exact Fits.record invariant.separate other writes held before fits
  · intro thread present entry learnt
    rcases List.mem_or_eq_of_mem_set present with old | rfl
    · have facts := invariant.recorded thread old entry learnt
      exact ⟨grows _ facts.1, facts.2⟩
    rw [fenceSeenIn_concat] at learnt
    rcases List.mem_append.mp learnt with new | old
    · exact learns_of_effect effect permitted mine new
    · exact ⟨grows _ (known entry old).1, (known entry old).2⟩
  · intro thread present row writes
    rcases List.mem_or_eq_of_mem_set present with old | rfl
    · exact invariant.owned thread old row writes
    rw [phaseOf, fenceSeenIn_concat] at writes
    rcases commands_of_effect effect permitted writes with old | new
    · exact invariant.owned _ (List.mem_of_getElem? active) row old
    · exact new
  intro replica durable commandID seen
  rcases seen_of_effect effect seen with before | ⟨c, rfl, rfl⟩
  · obtain ⟨row, present, facts⟩ := invariant.taken replica durable commandID before
    exact ⟨row, grows row present, facts⟩
  have own : replica = label.replica := permitted.1.trans (fleet.own label.replica)
  subst own
  obtain ⟨⟨row, learnt, -, -, environment⟩, placed⟩ := permitted.2 durable
  obtain ⟨present, named⟩ := known _ learnt
  exact ⟨row, grows row present, named, environment.trans placed⟩

theorem FenceInvariant.env (occurs : config.shared.occur event = some after) :
    FenceInvariant fleet { config with shared := after } := by
  have closed (i : Nat) : FenceInvariant fleet { config with shared := config.shared.close i } := by
    refine ⟨invariant.sound, invariant.separate.close i, ?_, invariant.recorded, invariant.owned,
      invariant.taken⟩
    intro j thread present inside session open_
    obtain ⟨found, sound⟩ := Sessions.live_eq_some_iff.mp open_
    have before := (Sessions.get_of_get_close found).2
    exact invariant.fits j thread present inside session
      (Sessions.live_eq_some_iff.mpr ⟨before, sound⟩)
  cases event with
  | cancel i =>
    cases occurs
    exact ⟨invariant.sound, ⟨invariant.separate.keys, invariant.separate.states,
      invariant.separate.ids⟩, invariant.fits, invariant.recorded, invariant.owned, invariant.taken⟩
  | rollback i =>
    dsimp only [occur] at occurs
    split at occurs
    · cases occurs
      exact closed i
    · cases occurs
  | disconnect i =>
    cases occurs
    exact closed i
  | skip =>
    cases occurs
    refine ⟨invariant.sound.advance (Nat.le_succ _), ⟨invariant.separate.keys,
      invariant.separate.states, invariant.separate.ids⟩, ?_, invariant.recorded, invariant.owned,
      invariant.taken⟩
    intro j thread present inside session open_
    exact (invariant.fits j thread present inside session open_).advance (Nat.le_succ _)

theorem FenceInvariant.spawn (label : FenceJob) (program : FenceWork FenceOutcome) :
    FenceInvariant fleet { config with threads := config.threads ++ [⟨label, [], program⟩] } := by
  refine ⟨invariant.sound, invariant.separate, ?_, ?_, ?_, invariant.taken⟩
  · intro j thread present inside session open_
    rcases getElem?_concat_cases present with ⟨-, rfl⟩ | old
    · exact absurd rfl inside
    · exact invariant.fits j thread old inside session open_
  · intro thread present
    rcases mem_concat.mp present with old | rfl
    · exact invariant.recorded thread old
    · exact fun _ learnt => absurd learnt List.not_mem_nil
  intro thread present
  rcases mem_concat.mp present with old | rfl
  · exact invariant.owned thread old
  · exact fun _ writes => absurd writes List.not_mem_nil

end

variable [LedgerLibrary]

theorem fenceInvariant_of_reaches (sound : start.Sound)
    (reached : (replicas fleet).Reaches ⟨{ tables := start }, []⟩ config) :
    FenceInvariant fleet config := by
  induction reached with
  | refl =>
    refine ⟨sound, ⟨Sessions.apart_empty, Sessions.apart_empty, Sessions.apart_empty⟩, nofun, nofun,
      nofun, nofun⟩
  | tail action before taken ih =>
    rcases Machine.next_cases taken with ⟨label, program, -, rfl⟩ |
      ⟨i, label, past, call, next, choice, answer, after, active, done, rfl⟩ |
      ⟨event, after, occurs, rfl⟩
    · exact ih.spawn label program
    · have keeps := caller_of_reaches before (List.mem_of_getElem? active)
      exact ih.exec active keeps.1 (fenceEffect_of_exec done)
    · exact ih.env occurs

end UmojaFlowOS.Fencing
