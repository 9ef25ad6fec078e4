import UmojaFlowOS.Fencing.Proofs.FenceCommands

/-!
# The flag of a replica

`ApplyContext` sets the flag of its replica from the command it was given, and leaves it as
it is when it has seen the command before. Neither looks at the durable state, which is that
of the last command any replica has recorded.
-/

namespace UmojaFlowOS.Fencing

open Go Interaction Ledger

/-- Since the command was recorded, only commands with its action were recorded for its
environment. -/
def Uncontradicted (t : FenceTables) (c : FenceCommand) : Prop :=
  t.commands.Pairwise fun row other => row.commandID = c.commandID →
    other.environment = c.environment → other.action = c.action

instance (t : FenceTables) (c : FenceCommand) : Decidable (Uncontradicted t c) :=
  inferInstanceAs (Decidable (List.Pairwise _ _))

/-- The flag of the replica is the durable state of its environment. -/
def FlagAgrees (f : SettlementFence) (s : FenceStore) : Prop :=
  (s.locals f.replica).fenced = s.tables.fenced f.environment

instance (f : SettlementFence) (s : FenceStore) : Decidable (FlagAgrees f s) :=
  inferInstanceAs (Decidable (_ = _))

section
variable {t : FenceTables} {row : CommandRow}

theorem environment_of_lastCommand (last : t.lastCommand environment = some row) :
    row.environment = environment := by
  simpa using (List.mem_filter.mp (List.mem_of_getLast? last)).2

/-- A command is the last one of its environment, or was recorded before it. -/
theorem exists_lastCommand (present : row ∈ t.commands) (ordered : t.commands.Pairwise related) :
    ∃ newest, t.lastCommand row.environment = some newest ∧ (row = newest ∨ related row newest) := by
  have listed : row ∈ t.commands.filter (·.environment = row.environment) :=
    List.mem_filter.mpr ⟨present, by simp⟩
  have kept := ordered.filter (·.environment = row.environment)
  obtain ⟨newest, last⟩ : ∃ newest, t.lastCommand row.environment = some newest :=
    ⟨_, List.getLast?_eq_getLast_of_ne_nil (List.ne_nil_of_mem listed)⟩
  obtain ⟨earlier, split⟩ := List.getLast?_eq_some_iff.mp last
  rw [split] at listed kept
  refine ⟨newest, last, ?_⟩
  rcases mem_concat.mp listed with before | rfl
  · exact .inr ((List.pairwise_append.mp kept).2.2 row before newest (List.mem_singleton_self _))
  · exact .inl rfl

theorem FenceTables.Sound.fenced_of_last (sound : t.Sound)
    (last : t.lastCommand environment = some row) :
    t.fenced environment = decide (row.action = .fence) := by
  rw [FenceTables.fenced, sound.agrees environment row last]
  rfl

end

section
variable {s after : FenceStore} {c : FenceCommand}

theorem seen_of_exec (done : s.exec db i (.seen replica commandID) choice = some (true, after)) :
    commandID ∈ (s.locals replica).seen ∧ after = s := by
  cases choice with
  | proceeds =>
    obtain ⟨seen, rfl⟩ := Prod.mk.inj (Option.some.inj done)
    exact ⟨by simpa using seen, rfl⟩
  | _ => cases done

theorem applyLocal_of_exec
    (done : s.exec db i (.applyLocal replica c) choice = some (answer, after)) :
    after = s.setLocal replica ((s.locals replica).apply c) := by
  cases choice with
  | proceeds => exact (Prod.mk.inj (Option.some.inj done)).2.symm
  | _ => cases done

theorem flag_of_apply :
    ((s.setLocal replica ((s.locals replica).apply c)).locals replica).fenced =
      if c.commandID ∈ (s.locals replica).seen then (s.locals replica).fenced
      else decide (c.action = .fence) := by
  simp only [FenceStore.setLocal, if_true, LocalFence.apply, List.contains_iff_mem]
  split <;> rfl

end

section
variable [LedgerLibrary] {fleet : Fleet} {start : FenceTables} {config later : FenceConfig}

/-- A call returns with the answer to its last request. -/
theorem answered_of_returns (taken : (replicas fleet).next config action = some later)
    (first : config.threads[i]? = some before) (second : later.threads[i]? = some after)
    (waits : before.rest ≠ .ret outcome) (returns : after.rest = .ret outcome) :
    ∃ event choice, after.past = before.past ++ [event] ∧ after.label = before.label ∧
      config.shared.exec fleet.database i event.call choice = some (event.answer, later.shared) := by
  have moved : after.rest ≠ before.rest := by
    rw [returns]
    exact waits.symm
  rcases Machine.next_cases taken with ⟨label, program, -, rfl⟩ |
    ⟨j, label, past, call, next, choice, answer, shared, active, done, rfl⟩ | ⟨event, shared, -, rfl⟩
  · obtain ⟨bound, -⟩ := List.getElem?_eq_some_iff.mp first
    rw [List.getElem?_append_left bound, first] at second
    cases second
    exact absurd rfl moved
  · rcases getElem?_set_cases second with ⟨rfl, rfl⟩ | ⟨other, second⟩
    · obtain rfl := Option.some.inj (active.symm.trans first)
      exact ⟨⟨call, answer⟩, choice, rfl, rfl, done⟩
    · cases first.symm.trans second
      exact absurd rfl moved
  · cases first.symm.trans second
    exact absurd rfl moved

/-- When `ApplyContext` of a durable fence returns without an error, the flag of the replica is
the durable state if the replica has not applied the command id before and no contrary command
of the environment was recorded since this one was. -/
theorem local_flag_agrees_with_state (sound : start.Sound)
    (reached : (replicas fleet).Reaches ⟨{ tables := start }, []⟩ config)
    (taken : (replicas fleet).next config action = some later) {i replica : Nat} {c : FenceCommand}
    {now : Time} {before after : FenceThread} (first : config.threads[i]? = some before)
    (second : later.threads[i]? = some after) (task : after.label = ⟨replica, .apply c now⟩)
    (durable : (fleet.fence replica).durable = true) (waits : before.rest ≠ .ret (.ended none))
    (returns : after.rest = .ret (.ended none))
    (unseen : c.commandID ∉ (config.shared.locals replica).seen)
    (uncontradicted : Uncontradicted config.shared.tables c) :
    FlagAgrees (fleet.fence replica) later.shared := by
  obtain ⟨⟨call, answer⟩, choice, past, -, done⟩ :=
    answered_of_returns taken first second waits returns
  have reached' := Machine.Reaches.tail action reached taken
  have invariant := fenceInvariant_of_reaches sound reached'
  have ends := caller_of_reaches reached' (List.mem_of_getElem? second)
  rw [Keeps, returns, task, past, fenceSeenIn_concat] at ends
  obtain ⟨-, placed, how⟩ : Applied (fleet.fence replica) c _ := ends durable rfl
  rw [fleet.own] at how
  rcases how with last | ⟨last, row, learnt, -, asks, home⟩
  · cases last
    exact absurd (seen_of_exec done).1 unseen
  cases last
  rw [← fenceSeenIn_concat, ← past] at learnt
  obtain ⟨present, named⟩ := invariant.recorded after (List.mem_of_getElem? second) _ learnt
  -- the last call sets the flag and leaves the tables, so the history is that of `config`
  have set := applyLocal_of_exec done
  have tables : later.shared.tables = config.shared.tables := by
    rw [set]
    rfl
  rw [← tables] at uncontradicted
  obtain ⟨newest, last, recorded⟩ := exists_lastCommand present uncontradicted
  have last_asks : newest.action = c.action := by
    rcases recorded with rfl | after
    · exact asks
    · exact after named (environment_of_lastCommand last |>.trans home)
  rw [home, placed] at last
  rw [FlagAgrees, fleet.own, invariant.sound.fenced_of_last last, last_asks, set, flag_of_apply,
    if_neg unseen]

end

/-! ## Two replicas -/

def succeeded (thread : FenceThread) : Bool :=
  match thread.rest with
  | .ret (.ended none) => true
  | _ => false

theorem rest_of_succeeded (succeeds : succeeded thread = true) :
    thread.rest = .ret (.ended none) := by
  unfold succeeded at succeeds
  split at succeeds
  · assumption
  · cases succeeds

theorem rest_of_not_succeeded (waits : succeeded thread = false) :
    thread.rest ≠ .ret (.ended none) := by
  intro returns
  rw [succeeded, returns] at waits
  cases waits

def applied (thread : Nat) : List (Action FenceJob FenceChoice FenceEvent) :=
  List.replicate 8 (.exec thread .proceeds)

/-- The last call of a thread, in the state that a schedule leads to. -/
def lastCall [LedgerLibrary] (schedule : List (Action FenceJob FenceChoice FenceEvent)) (thread : Nat)
    (check : FenceConfig → FenceThread → FenceConfig → FenceThread → Bool) : Bool :=
  ((replicas prodFleet).replay ⟨{}, []⟩ schedule).any fun config =>
    ((replicas prodFleet).next config (.exec thread .proceeds)).any fun later =>
      config.threads[thread]?.any fun before => later.threads[thread]?.any fun after =>
        !succeeded before && succeeded after && check config before later after

theorem exists_of_lastCall [LedgerLibrary] (played : lastCall schedule thread check = true) :
    ∃ config later before after, (replicas prodFleet).Reaches ⟨{}, []⟩ config ∧
      (replicas prodFleet).next config (.exec thread .proceeds) = some later ∧
      config.threads[thread]? = some before ∧ later.threads[thread]? = some after ∧
      before.rest ≠ .ret (.ended none) ∧ after.rest = .ret (.ended none) ∧
      check config before later after = true := by
  obtain ⟨config, replayed, played⟩ := (Option.any_eq_true _ _).mp played
  obtain ⟨later, taken, played⟩ := (Option.any_eq_true _ _).mp played
  obtain ⟨before, first, played⟩ := (Option.any_eq_true _ _).mp played
  obtain ⟨after, second, played⟩ := (Option.any_eq_true _ _).mp played
  simp only [Bool.and_eq_true, Bool.not_eq_true'] at played
  obtain ⟨⟨waits, succeeds⟩, checked⟩ := played
  exact ⟨config, later, before, after, Machine.reaches_of_replay replayed, taken, first, second,
    rest_of_not_succeeded waits, rest_of_succeeded succeeds, checked⟩

/-- The first command that a replica applies. -/
theorem first_flag_agrees :
    FenceTables.Sound {} ∧ ∃ config later before after,
      (@replicas asciiLedger prodFleet).Reaches ⟨{}, []⟩ config ∧
      (@replicas asciiLedger prodFleet).next config (.exec 0 .proceeds) = some later ∧
      config.threads[0]? = some before ∧ later.threads[0]? = some after ∧
      after.label = ⟨0, .apply fenceProd 1⟩ ∧ before.rest ≠ .ret (.ended none) ∧
      after.rest = .ret (.ended none) ∧ fenceProd.commandID ∉ (config.shared.locals 0).seen ∧
      Uncontradicted config.shared.tables fenceProd ∧
      FlagAgrees (prodFleet.fence 0) later.shared := by
  let := asciiLedger
  have played : lastCall ([.spawn ⟨0, .apply fenceProd 1⟩] ++ (applied 0).dropLast) 0
      (fun config _ _ after => decide (after.label = ⟨0, .apply fenceProd 1⟩) &&
        decide (fenceProd.commandID ∉ (config.shared.locals 0).seen ∧
          Uncontradicted config.shared.tables fenceProd)) = true := by
    decide +kernel
  obtain ⟨config, later, before, after, reached, taken, first, second, waits, returns, checked⟩ :=
    exists_of_lastCall played
  obtain ⟨label, history⟩ := Bool.and_eq_true_iff.mp checked
  obtain ⟨unseen, uncontradicted⟩ := of_decide_eq_true history
  exact ⟨sound_empty, config, later, before, after, reached, taken, first, second,
    of_decide_eq_true label, waits, returns, unseen, uncontradicted,
    local_flag_agrees_with_state sound_empty reached taken first second (of_decide_eq_true label)
      rfl waits returns unseen uncontradicted⟩

/-- One replica fences, another one opens, and the first is sent its command once more: it
succeeds with the flag still set, while the environment is open. -/
theorem repeated_command_leaves_flag :
    ∃ config later before after, (@replicas asciiLedger prodFleet).Reaches ⟨{}, []⟩ config ∧
      (@replicas asciiLedger prodFleet).next config (.exec 2 .proceeds) = some later ∧
      config.threads[2]? = some before ∧ later.threads[2]? = some after ∧
      after.label = ⟨0, .apply fenceProd 2⟩ ∧ before.rest ≠ .ret (.ended none) ∧
      after.rest = .ret (.ended none) ∧ (later.shared.locals 0).fenced = true ∧
      later.shared.tables.fenced "prod" = false := by
  let := asciiLedger
  have played : lastCall ([.spawn ⟨0, .apply fenceProd 1⟩] ++ applied 0 ++
        [.spawn ⟨1, .apply openProd 1⟩] ++ applied 1 ++ [.spawn ⟨0, .apply fenceProd 2⟩]) 2
      (fun _ _ later after => decide (after.label = ⟨0, .apply fenceProd 2⟩) &&
        decide ((later.shared.locals 0).fenced = true ∧
          later.shared.tables.fenced "prod" = false)) = true := by
    decide +kernel
  obtain ⟨config, later, before, after, reached, taken, first, second, waits, returns, checked⟩ :=
    exists_of_lastCall played
  obtain ⟨label, flags⟩ := Bool.and_eq_true_iff.mp checked
  obtain ⟨flag, state⟩ := of_decide_eq_true flags
  exact ⟨config, later, before, after, reached, taken, first, second, of_decide_eq_true label, waits,
    returns, flag, state⟩

end UmojaFlowOS.Fencing
