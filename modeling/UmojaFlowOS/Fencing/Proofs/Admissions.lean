import UmojaFlowOS.Fencing.Proofs.FenceCommands

/-!
# Submissions under an admission

A posting holds the row lock on the state of its environment, from the admission until
after the ledger was called, so that no `FENCE` commits in between. The lock is held by a
transaction that `database/sql` rolls back as soon as the context is cancelled, also while
the client waits for TigerBeetle.
-/

namespace UmojaFlowOS.Fencing

open Go Interaction Ledger Relational

/-- Transfers are submitted to TigerBeetle, or are just about to be, and not answered yet. -/
def submitting (thread : FenceThread) : Bool :=
  match thread.rest with
  | .call (.ledger (.createTransfers _)) _ => true
  | _ => false

def holdsAdmission (thread : FenceThread) : Bool :=
  match phaseOf thread with
  | .admitted _ _ => true
  | _ => false

/-- No context is cancelled while a submission under it is in flight, and no connection is
lost that holds an admission. -/
def undisturbed (config : FenceConfig) : Action FenceJob FenceChoice FenceEvent → Bool
  | .env (.cancel i) => !config.threads[i]?.any submitting
  | .env (.disconnect i) => !config.threads[i]?.any holdsAdmission
  | _ => true

section
variable {s after : FenceStore} {i : Nat} {phase : FencePhase}

theorem cancelled_of_effect (effect : FenceEffect db s i call answer after) :
    after.cancelled = s.cancelled := by
  cases effect with
  | _ => rfl

theorem live_of_admitted (effect : FenceEffect db s i call answer after)
    (admitted : phase.after ⟨call, answer⟩ = .admitted environment row) :
    (∃ session, after.live i = some session) ∨
      phase = .admitted environment row ∧ after.live i = s.live i := by
  cases effect with
  | idle idle =>
    rcases (idle phase).1 with same | ended
    · exact .inr ⟨same.symm.trans admitted, rfl⟩
    · cases ended.symm.trans admitted
  | applies | sets => exact .inr ⟨admitted, rfl⟩
  | spoils ends | closes ends => cases (ends phase).1.symm.trans admitted
  | finds open_ | admits open_ =>
    exact .inl ⟨_, Sessions.live_put_self (Sessions.live_eq_some_iff.mp open_).2⟩
  | locks | upserts => cases phase <;> cases admitted
  | _ => cases admitted

/-- A context that is found in order is not cancelled. -/
theorem not_cancelled_of_clears (done : s.exec db i call choice = some (answer, after))
    (clear : clears ⟨call, answer⟩ = true) : i ∉ after.cancelled := by
  unfold clears at clear
  split at clear
  · rename_i same
    cases same
    obtain ⟨err, answered, same⟩ : ∃ err, s.answerLedger i .ctxErr choice = some err ∧
        (err, s) = (none, after) := by
      cases choice <;> exact Option.map_eq_some_iff.mp done
    cases same
    cases choice with
    | ends err =>
      dsimp only [FenceStore.answerLedger] at answered
      intro cancelled
      rw [if_pos (by simpa using cancelled)] at answered
      split at answered
      · rename_i given
        cases answered
        cases given
      · cases answered
    | _ => cases answered
  · cases clear

end

section
variable [LedgerLibrary] {fleet : Fleet} {start : FenceTables} {config : FenceConfig}

/-- The admissions of the contexts that are not cancelled are held, and nothing is in flight
under one that is. -/
structure AdmissionsHeld (fleet : Fleet) (config : FenceConfig) : Prop where
  held : ∀ (i : Nat) (thread : FenceThread) (environment : String) (row : StateRow),
    config.threads[i]? = some thread → phaseOf thread = .admitted environment row →
    i ∉ config.shared.cancelled → ∃ session, config.shared.live i = some session
  running : ∀ (i : Nat) (thread : FenceThread), config.threads[i]? = some thread →
    submitting thread = true → (fleet.fence thread.label.replica).durable = true →
    i ∉ config.shared.cancelled

omit [LedgerLibrary] in
theorem admitted_of_submitting (keeps : Keeps fleet thread) (submits : submitting thread = true)
    (durable : (fleet.fence thread.label.replica).durable = true) :
    (fenceSeenIn thread.past).last.any clears = true ∧
      ∃ row, phaseOf thread = .admitted (fleet.fence thread.label.replica).environment row := by
  unfold submitting at submits
  split at submits
  · rename_i same
    rw [Keeps, same] at keeps
    exact keeps.1 durable
  · cases submits

/-- An answered call keeps the admissions. -/
theorem AdmissionsHeld.exec (held : AdmissionsHeld fleet config)
    (callers : ∀ thread ∈ later.threads, Keeps fleet thread)
    (taken : (replicas fleet).next config (.exec i choice) = some later) :
    AdmissionsHeld fleet later := by
  obtain ⟨label, past, call, next, answer, after, active, done, rfl⟩ := Machine.next_exec taken
  have effect := fenceEffect_of_exec done
  have cancelled := cancelled_of_effect effect
  refine ⟨?_, ?_⟩
  · intro j thread environment row present admitted open_
    rw [cancelled] at open_
    rcases getElem?_set_cases present with ⟨rfl, rfl⟩ | ⟨other, present⟩
    · rw [phaseOf, fenceSeenIn_concat] at admitted
      rcases live_of_admitted effect admitted with fresh | ⟨before, same⟩
      · exact fresh
      · rw [same]
        exact held.held j _ environment row active before open_
    · rw [live_of_effect effect other]
      exact held.held j thread environment row present admitted open_
  intro j thread present submits durable
  have kept := callers thread (List.mem_of_getElem? present)
  rcases getElem?_set_cases present with ⟨rfl, rfl⟩ | ⟨other, present⟩
  · obtain ⟨clear, -⟩ := admitted_of_submitting kept submits durable
    rw [fenceSeenIn_concat] at clear
    exact not_cancelled_of_clears done (by simpa [FenceSeen.after] using clear)
  rw [cancelled]
  exact held.running j thread present submits durable

omit [LedgerLibrary] in
/-- So does what happens by itself, unless it disturbs a submission. -/
theorem AdmissionsHeld.env (held : AdmissionsHeld fleet config)
    (calm : undisturbed config (.env event) = true)
    (occurs : config.shared.occur event = some after) :
    AdmissionsHeld fleet { config with shared := after } := by
  have closed (j : Nat) (apart : ∀ thread environment row, config.threads[j]? = some thread →
      phaseOf thread = .admitted environment row → j ∈ config.shared.cancelled) :
      AdmissionsHeld fleet { config with shared := config.shared.close j } := by
    refine ⟨?_, held.running⟩
    intro i thread environment row present admitted open_
    have other : i ≠ j := fun same => open_ (by
      rw [same] at present ⊢
      exact apart thread environment row present admitted)
    obtain ⟨session, live⟩ := held.held i thread environment row present admitted open_
    refine ⟨session, ?_⟩
    exact (Sessions.live_congr (Sessions.get_close_of_ne other)).trans live
  cases event with
  | cancel j =>
    cases occurs
    refine ⟨fun i thread environment row present admitted open_ =>
      held.held i thread environment row present admitted fun listed =>
        open_ (by simp [listed]), ?_⟩
    intro i thread present submits durable listed
    rcases List.mem_cons.mp listed with rfl | listed
    · have quiet : config.threads[i]?.any submitting = false := by
        simpa [undisturbed] using calm
      rw [present, Option.any_some, submits] at quiet
      cases quiet
    · exact held.running i thread present submits durable listed
  | rollback j =>
    dsimp only [FenceStore.occur] at occurs
    split at occurs
    · rename_i listed
      cases occurs
      exact closed j fun _ _ _ _ _ => by simpa using listed
    · cases occurs
  | disconnect j =>
    cases occurs
    refine closed j fun thread environment row present admitted => ?_
    have quiet : config.threads[j]?.any holdsAdmission = false := by
      simpa [undisturbed] using calm
    rw [present, Option.any_some, holdsAdmission, admitted] at quiet
    cases quiet
  | skip =>
    cases occurs
    exact ⟨held.held, held.running⟩

theorem admissionsHeld_of_reachesBy
    (ran : (replicas fleet).ReachesBy undisturbed ⟨{ tables := start }, []⟩ config) :
    AdmissionsHeld fleet config := by
  induction ran with
  | refl => exact ⟨nofun, nofun⟩
  | tail action before calm taken ih =>
    have reached := Machine.Reaches.tail action before.reaches taken
    cases action with
    | exec i choice => exact ih.exec (fun _ present => caller_of_reaches reached present) taken
    | env event =>
      obtain ⟨after, occurs, rfl⟩ := Machine.next_env taken
      exact ih.env calm occurs
    | spawn label =>
      obtain ⟨program, -, rfl⟩ := Machine.next_spawn taken
      refine ⟨?_, ?_⟩
      · intro i thread environment row present admitted
        rcases getElem?_concat_cases present with ⟨-, rfl⟩ | old
        · cases admitted
        · exact ih.held i thread environment row old admitted
      intro i thread present submits durable
      rcases getElem?_concat_cases present with ⟨-, rfl⟩ | old
      · have kept := caller_of_reaches reached (List.mem_of_getElem? present)
        exact absurd (admitted_of_submitting kept submits durable).1 nofun
      · exact ih.running i thread old submits durable

/-- In every run in which no context is cancelled while a submission under it is in flight,
and no connection is lost that holds an admission, a submission is in flight only while the
environment is open: the last command that was committed for it is not a `FENCE`. -/
theorem submissions_are_admitted (sound : start.Sound)
    (ran : (replicas fleet).ReachesBy undisturbed ⟨{ tables := start }, []⟩ config)
    {thread : FenceThread} (present : thread ∈ config.threads)
    (submits : submitting thread = true)
    (durable : (fleet.fence thread.label.replica).durable = true) :
    config.shared.tables.fenced (fleet.fence thread.label.replica).environment = false ∧
      ∀ last, config.shared.tables.lastCommand (fleet.fence thread.label.replica).environment =
        some last → last.action ≠ .fence := by
  have invariant := fenceInvariant_of_reaches sound ran.reaches
  have held := admissionsHeld_of_reachesBy ran
  obtain ⟨i, active⟩ := List.getElem?_of_mem present
  obtain ⟨-, row, admitted⟩ :=
    admitted_of_submitting (caller_of_reaches ran.reaches present) submits durable
  obtain ⟨session, live⟩ :=
    held.held i thread _ row active admitted (held.running i thread active submits durable)
  have fits := invariant.fits i thread active (by rw [admitted]; exact nofun) session live
  obtain ⟨state, unfenced⟩ := fits.admitted _ row admitted
  refine ⟨by rw [FenceTables.fenced, state, Option.map_some, Option.getD_some, unfenced], ?_⟩
  intro last newest fences
  have agrees := invariant.sound.agrees _ last newest
  rw [state] at agrees
  cases agrees
  exact absurd unfenced (by simp [CommandRow.state, fences])

end

/-! ## A posting whose context is cancelled -/

def dollarPosting : PostingRequest where
  transferID := 1
  correlationID := "order-1"
  currency := "USD"
  amount := 5
  debitAccountID := 2
  creditAccountID := 3

def submitted : List (Action FenceJob FenceChoice FenceEvent) :=
  [.spawn ⟨0, .record openProd⟩] ++ recorded 0 ++
    [.spawn ⟨0, .post .confirm dollarPosting⟩, .exec 1 .proceeds, .exec 1 .proceeds,
      .exec 1 (.ends none)]

/-- A submission is in flight, in an open environment. -/
theorem posting_is_admitted :
    FenceTables.Sound {} ∧ ∃ config thread,
      (@replicas asciiLedger prodFleet).ReachesBy undisturbed ⟨{}, []⟩ config ∧
      thread ∈ config.threads ∧ submitting thread = true ∧
      config.shared.tables.fenced "prod" = false ∧
      ∀ last, config.shared.tables.lastCommand "prod" = some last → last.action ≠ .fence := by
  let := asciiLedger
  have played : ∃ config, (replicas prodFleet).ReachesBy undisturbed ⟨{}, []⟩ config ∧
      ∃ thread ∈ config.threads, submitting thread = true :=
    Machine.exists_of_replayBy submitted (by decide)
  obtain ⟨config, ran, thread, present, submits⟩ := played
  exact ⟨sound_empty, config, thread, ran, present, submits,
    submissions_are_admitted sound_empty ran present submits rfl⟩

/-- The context of the posting is cancelled while TigerBeetle is called: its transaction is
rolled back, a `FENCE` of another replica commits, and the submission is still in flight. -/
theorem cancelled_submission_outlives_fence :
    ∃ config thread last, (@replicas asciiLedger prodFleet).Reaches ⟨{}, []⟩ config ∧
      config.threads[1]? = some thread ∧ thread.label = ⟨0, .post .confirm dollarPosting⟩ ∧
      submitting thread = true ∧ config.shared.tables.fenced "prod" = true ∧
      config.shared.tables.lastCommand "prod" = some last ∧ last.action = .fence := by
  let := asciiLedger
  have played : ((replicas prodFleet).replay ⟨{}, []⟩ (submitted ++
      [.env (.cancel 1), .env (.rollback 1), .spawn ⟨1, .record fenceProd⟩] ++ recorded 2)).any
      (fun config => (config.threads[1]?.any fun thread =>
          decide (thread.label = ⟨0, .post .confirm dollarPosting⟩) && submitting thread) &&
        config.shared.tables.fenced "prod" &&
        (config.shared.tables.lastCommand "prod").any fun last => decide (last.action = .fence)) =
      true := by
    decide
  obtain ⟨config, replayed, facts⟩ := (Option.any_eq_true _ _).mp played
  simp only [Bool.and_eq_true] at facts
  obtain ⟨⟨calls, fenced⟩, newest⟩ := facts
  obtain ⟨thread, present, calls⟩ := (Option.any_eq_true _ _).mp calls
  obtain ⟨label, submits⟩ := Bool.and_eq_true_iff.mp calls
  obtain ⟨last, found, fences⟩ := (Option.any_eq_true _ _).mp newest
  exact ⟨config, thread, last, Machine.reaches_of_replay replayed, present,
    of_decide_eq_true label, submits, fenced, found, of_decide_eq_true fences⟩

end UmojaFlowOS.Fencing
