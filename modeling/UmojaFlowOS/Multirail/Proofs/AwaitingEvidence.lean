import UmojaFlowOS.Multirail.Proofs.UnknownFences

/-!
# Awaiting evidence

`Reconcile` gives a claim back when the provider's answer is not conclusive. The batch
reconciler records such an outcome as a decision, and recording a decision resolves the
row. So the rows stay open exactly as long as the answers to batches are conclusive.
-/

namespace UmojaFlowOS.Multirail

open Go Interaction Relational

section
variable [CaseTables]

/-- The answer to a batch decides every state of it. -/
def conclusiveFor (runID : String) (states : List UnknownState) :
    Except GoError IdemBatchResponse → Bool
  | .error _ => false
  | .ok response => response.runID = runID && !response.partial_ && states.all fun state =>
      (response.item state.intent.id).any fun item => toUpper item.status ∈
        ["SETTLED", "POSTED", "ACCEPTED", "UNMATCHED", "NOT_FOUND", "FAILED_NO_EFFECT"]

/-- The actions meant: answers to batches are conclusive, and decisions that are recorded
directly are terminal. -/
def conclusive (config : StoreConfig) : Action StoreJob StoreChoice Disconnect → Bool
  | .spawn (.recordDecision _ result) => result.decision.terminal
  | .exec i (.batch answer) =>
    match config.threads[i]? with
    | some ⟨.reconcileBatch _ runID states, _, _⟩ => conclusiveFor runID states answer
    | _ => true
  | _ => true

theorem terminal_of_conclusiveFor (decisive : conclusiveFor runID states answer = true)
    (listed : state ∈ states) : (batchDecision answer runID state).terminal = true := by
  rcases answer with err | response
  · cases decisive
  simp only [conclusiveFor, Bool.and_eq_true, decide_eq_true_eq, Bool.not_eq_true',
    List.all_eq_true] at decisive
  obtain ⟨⟨run, complete⟩, items⟩ := decisive
  obtain ⟨item, found, status⟩ := (Option.any_eq_true _ _).mp (items state listed)
  rw [batchDecision, if_neg (not_not.mpr run), IdemBatchResponse.verdict, found, complete]
  rw [decide_eq_true_eq] at status
  show item.verdict.1.terminal = true
  unfold IdemBatchItem.verdict
  split
  · rfl
  split
  · rfl
  · simp_all

end

/-! ## Rows that were given back -/

/-- The row was claimed again, or is open and not leased. -/
def LeftOpen (rows : Rows) (key : String) (attempt : Nat) : Prop :=
  ∃ row ∈ rows.queue, row.key = key ∧ (attempt < row.attempts ∨
    row.attempts = attempt ∧ row.resolved = false ∧ row.leaseUntil = none ∧ row.leaseToken = none)

/-- The same as its users see it: from its time on the row is there to be claimed. -/
def Reclaimable (s : Tables) (key : String) (attempt : Nat) : Prop :=
  ∃ row ∈ s.rows.queue, row.key = key ∧ (attempt < row.attempts ∨
    row.attempts = attempt ∧ row.resolved = false ∧
      ∀ i now leaseUntil lease, row.state.nextAttemptAt ≤ now → ∃ state after,
        s.exec i (.claimRow key now leaseUntil lease) .proceeds = some (.ok state, after) ∧
          state.attempts = attempt + 1)

/-- A row becomes resolved by a terminal decision only, and a result that awaits evidence
leaves its row open. -/
structure OnlyConclusive (config : StoreConfig) : Prop where
  resolved : ∀ row ∈ config.shared.rows.queue, row.resolved = true →
    (∃ d ∈ config.shared.rows.decisions, d.idempotencyKey = row.key ∧ d.attempt = row.attempts) ∧
    ∀ d ∈ config.shared.rows.decisions, d.idempotencyKey = row.key → d.decision.terminal = true
  awaiting : ∀ thread ∈ config.threads, ∀ results err,
    thread.rest = .ret (.reconciled results err) → ∀ result ∈ results,
      result.decision = .awaitingEvidence →
        Reclaimable config.shared result.idempotencyKey result.attempt

section
variable {s : Tables} {i : Nat} {call : StoreCall} {answer : call.Answer}

/-- A row that was left open can be claimed when it is due. -/
theorem LeftOpen.reclaimable (sound : SoundTables s)
    (left_ : LeftOpen s.rows key attempt) : Reclaimable s key attempt := by
  obtain ⟨row, present, rfl, newer | ⟨attempts, open_, unleased, token⟩⟩ := left_
  · exact ⟨row, present, rfl, .inl newer⟩
  refine ⟨row, present, rfl, .inr ⟨attempts, open_, fun i now leaseUntil lease due => ?_⟩⟩
  have free : s.held row.key = false := by
    refine Sessions.anywhere_eq_false.mpr fun j session found => ?_
    refine locks_eq_false.mpr fun locked tried theirs decidedAt written same => ?_
    obtain ⟨⟨held, there, holds⟩, -⟩ := (sound.pending j session found).held written
    obtain ⟨heldKey, -, heldToken, -⟩ := heldBy_iff.mp holds
    rw [sound.row_unique there present (heldKey.trans same), token] at heldToken
    cases heldToken
  have claimable : row.claimable row.key now = true := by
    rw [claimable_iff, unleased]
    exact ⟨rfl, open_, due, nofun⟩
  have first : s.rows.queue.find? (QueueRow.claimable row.key now) = some row := by
    cases found : s.rows.queue.find? (QueueRow.claimable row.key now) with
    | none => exact absurd claimable (List.find?_eq_none.mp found row present)
    | some other =>
      have same := (claimable_iff.mp (List.find?_some found)).1
      rw [sound.row_unique (List.mem_of_find?_eq_some found) present same]
  refine ⟨(row.claimed leaseUntil lease).scanned lease, (s.claimRow row.key now leaseUntil lease).2,
    ?_, ?_⟩
  · show (if s.held row.key then none else some (s.claimRow row.key now leaseUntil lease)) = _
    rw [free, Tables.claimRow, first]
    rfl
  · rw [← attempts]
    rfl

/-- No call resolves a row under a claim that was given back. -/
theorem StoreEffect.leftOpen (effect : StoreEffect s i call answer after) (sound : SoundTables s)
    (left_ : LeftOpen s.rows key attempt) : LeftOpen after.rows key attempt := by
  obtain ⟨row, present, rfl, state⟩ := left_
  -- An update that only a leased row matches leaves the row, or finds it claimed again.
  have leased {condition : QueueRow → Bool} {change : QueueRow → QueueRow}
      (matches_ : condition row = true → row.leaseToken ≠ none)
      (key : (change row).key = row.key) (attempts : (change row).attempts = row.attempts) :
      ∃ kept ∈ updateWhere condition change s.rows.queue, kept.key = row.key ∧
        (attempt < kept.attempts ∨ kept.attempts = attempt ∧ kept.resolved = false ∧
          kept.leaseUntil = none ∧ kept.leaseToken = none) := by
    by_cases matched : condition row = true
    · refine ⟨change row, mem_updateWhere.mpr (.inl ⟨row, present, matched, rfl⟩), key, ?_⟩
      rcases state with newer | ⟨-, -, -, token⟩
      · exact .inl (attempts ▸ newer)
      · exact absurd token (matches_ matched)
    · exact ⟨row, mem_updateWhere.mpr (.inr ⟨present, by simpa using matched⟩), rfl, state⟩
  have held {key lease : String} {attempts : Nat} (holds : row.heldBy key attempts lease = true) :
      row.leaseToken ≠ none := by
    rw [(heldBy_iff.mp holds).2.2.1]
    exact nofun
  cases effect with
  | @claims key now found answer leaseUntil lease free first told =>
    by_cases matched : row.claimable key now = true
    · refine ⟨row.claimed leaseUntil lease,
        mem_updateWhere.mpr (.inl ⟨row, present, matched, rfl⟩), rfl, .inl ?_⟩
      have next : (row.claimed leaseUntil lease).attempts = row.attempts + 1 := rfl
      rcases state with newer | ⟨same, -⟩ <;> omega
    · exact ⟨row, mem_updateWhere.mpr (.inr ⟨present, by simpa using matched⟩), rfl, state⟩
  | reschedules free told => exact leased held rfl rfl
  | @commits session answer open_ =>
    have pending := sound.pending i session (Sessions.get_of_live open_)
    show LeftOpen (session.visible s.rows) row.key attempt
    rw [Session.visible]
    generalize session.writes = writes at pending
    cases pending with
    | nothing | decide => exact ⟨row, present, rfl, state⟩
    | enqueue absent open_ => exact ⟨row, List.mem_append_left _ present, rfl, state⟩
    | resolve fresh lock => exact leased held rfl rfl
  | _ => exact ⟨row, present, rfl, state⟩

theorem StoreEffect.released
    (effect : StoreEffect s i (.rescheduleRow key attempts lease next reason) (.ok 1) after) :
    LeftOpen after.rows key attempts := by
  cases effect with
  | reschedules free told =>
    rcases told with same | ⟨text, failed⟩
    · have some_ : 0 < s.rows.queue.countP (QueueRow.heldBy key attempts lease) := by
        rw [← Except.ok.inj same]
        exact Nat.one_pos
      obtain ⟨row, present, holds⟩ := List.countP_pos_iff.mp some_
      obtain ⟨rowKey, tried, -, open_⟩ := heldBy_iff.mp holds
      exact ⟨row.rescheduled next reason, mem_updateWhere.mpr (.inl ⟨row, present, holds, rfl⟩),
        rowKey, .inr ⟨tried, open_, rfl, rfl⟩⟩
    · cases failed
  | idle told | spoils told | closes told => exact absurd (told .outside {}).2.2 nofun

end

/-! ## What a caller learns -/

section
variable (facts : Facts) (event : Event storeCalls)

theorem released_after : (facts.after event).released = facts.released ∨
    ∃ key attempts lease next reason,
      event = ⟨.rescheduleRow key attempts lease next reason, .ok 1⟩ ∧
        (facts.after event).released = some (key, attempts) := by
  unfold Facts.after
  split
  · exact .inl rfl
  · exact .inl rfl
  · exact .inr ⟨_, _, _, _, _, rfl, rfl⟩
  · exact .inl rfl

theorem batch_after : (facts.after event).batch = facts.batch ∨
    ∃ runID ids answer, event = ⟨.reconcileBatch runID ids, answer⟩ ∧
      (facts.after event).batch = some answer := by
  unfold Facts.after
  split
  · exact .inl rfl
  · exact .inr ⟨_, _, _, rfl, rfl⟩
  · exact .inl rfl
  · exact .inl rfl

end

theorem choice_of_batch {s after : Tables}
    (done : s.exec i (.reconcileBatch runID ids) choice = some (answer, after)) :
    choice = .batch answer := by
  cases choice with
  | batch given =>
    cases done
    rfl
  | _ => cases done

/-! ## Runs -/

section
variable [CaseTables] {config : StoreConfig}

structure ConclusiveRun (config : StoreConfig) : Prop extends TablesKept config where
  directs : ∀ thread ∈ config.threads, ∀ store result,
    thread.label = .recordDecision store result → result.decision.terminal = true
  batches : ∀ thread ∈ config.threads, ∀ reconciler runID states answer,
    thread.label = .reconcileBatch reconciler runID states →
    (seenIn thread.past).facts.batch = some answer → conclusiveFor runID states answer = true
  released : ∀ thread ∈ config.threads, ∀ key attempts,
    (seenIn thread.past).facts.released = some (key, attempts) →
    LeftOpen config.shared.rows key attempts

theorem ConclusiveRun.terminal (run : ConclusiveRun config)
    (reached : reconcilers.Reaches emptyStore config)
    (answering : Answering config action i label past (.insertDecision result)) :
    result.decision.terminal = true := by
  obtain ⟨-, next, active⟩ := answering
  have member := List.mem_of_getElem? active
  have recorded : label.records (seenIn past).facts result := (permitted_of_reaches reached active).2
  cases label with
  | recordDecision store given =>
    obtain rfl : result = given := recorded
    exact run.directs _ member store result rfl
  | reconcile worker key provider => exact recorded
  | reconcileBatch reconciler runID states =>
    obtain ⟨answer, state, told, listed, decision⟩ := recorded
    rw [decision]
    exact terminal_of_conclusiveFor (run.batches _ member reconciler runID states answer rfl told)
      listed
  | _ => exact recorded.elim

theorem ConclusiveRun.spawn (run : ConclusiveRun config)
    (meant : conclusive config (.spawn job) = true)
    (kept : TablesKept ⟨config.shared, config.threads ++ [⟨job, [], job.program⟩]⟩) :
    ConclusiveRun ⟨config.shared, config.threads ++ [⟨job, [], job.program⟩]⟩ := by
  refine ⟨kept, fun thread present => ?_, fun thread present => ?_, fun thread present => ?_⟩
  · rcases mem_concat.mp present with old | rfl
    · exact run.directs thread old
    · rintro store result rfl
      exact meant
  · rcases mem_concat.mp present with old | rfl
    · exact run.batches thread old
    · intro _ _ _ _ _ nothing
      cases nothing
  rcases mem_concat.mp present with old | rfl
  · exact run.released thread old
  · intro _ _ nothing
    cases nothing

theorem ConclusiveRun.exec (run : ConclusiveRun config)
    (meant : conclusive config (.exec i choice) = true)
    (active : config.threads[i]? = some ⟨label, past, .call call next⟩)
    (done : config.shared.exec i call choice = some (answer, after)) (kept : TablesKept ⟨after,
      config.threads.set i ⟨label, past ++ [⟨call, answer⟩], next answer⟩⟩) :
    ConclusiveRun ⟨after, config.threads.set i ⟨label, past ++ [⟨call, answer⟩], next answer⟩⟩ := by
  have member := List.mem_of_getElem? active
  have effect := effect_of_exec done
  refine ⟨kept, fun thread present => ?_, fun thread present => ?_, fun thread present => ?_⟩
  · rcases List.mem_or_eq_of_mem_set present with old | rfl
    · exact run.directs thread old
    · exact run.directs ⟨label, past, .call call next⟩ member
  · rcases List.mem_or_eq_of_mem_set present with old | rfl
    · exact run.batches thread old
    rintro reconciler runID states told rfl facts
    rw [seenIn_snoc] at facts
    rcases batch_after (seenIn past).facts ⟨call, answer⟩ with same | ⟨asked, ids, given, same, new⟩
    · exact run.batches _ member reconciler runID states told rfl (same.symm.trans facts)
    obtain rfl : given = told := Option.some.inj (new.symm.trans facts)
    cases same
    rw [choice_of_batch done] at meant
    simp only [conclusive, active] at meant
    exact meant
  intro key attempts facts
  rcases List.mem_or_eq_of_mem_set present with old | rfl
  · exact effect.leftOpen run.sound (run.released thread old key attempts facts)
  rw [seenIn_snoc] at facts
  rcases released_after (seenIn past).facts ⟨call, answer⟩ with
    same | ⟨asked, tried, lease, due, reason, same, new⟩
  · exact effect.leftOpen run.sound (run.released _ member key attempts (same.symm.trans facts))
  obtain ⟨rfl, rfl⟩ : asked = key ∧ tried = attempts :=
    Prod.mk.inj (Option.some.inj (new.symm.trans facts))
  cases same
  exact effect.released

theorem conclusiveRun_of_reaches (ran : reconcilers.ReachesBy conclusive emptyStore config) :
    ConclusiveRun config := by
  induction ran with
  | refl =>
    exact ⟨tablesKept_empty, fun _ none_ => absurd none_ List.not_mem_nil,
      fun _ none_ => absurd none_ List.not_mem_nil, fun _ none_ => absurd none_ List.not_mem_nil⟩
  | tail action before meant taken ih =>
    have kept := ih.toTablesKept.step before.reaches taken fun i label past result answering =>
      ih.terminal before.reaches answering
    cases action with
    | spawn job =>
      obtain ⟨program, started, rfl⟩ := Machine.next_spawn taken
      obtain rfl : job.program = program := Option.some.inj started
      exact ih.spawn meant kept
    | exec i choice =>
      obtain ⟨label, past, call, next, answer, after, active, done, rfl⟩ := Machine.next_exec taken
      exact ih.exec meant active done kept
    | env event =>
      obtain ⟨shared, changed, rfl⟩ := Machine.next_env taken
      cases changed
      exact ⟨kept, ih.directs, ih.batches, ih.released⟩

/-- In every run in which the answers to batches decide all their states, rows become
resolved by terminal decisions only, and results that await evidence leave theirs open. -/
theorem conclusive_runs_leave_rows_open (config : StoreConfig)
    (ran : reconcilers.ReachesBy conclusive emptyStore config) : OnlyConclusive config := by
  have run := conclusiveRun_of_reaches ran
  refine ⟨fun row present resolved => ⟨run.sound.resolved row present resolved, ?_⟩, ?_⟩
  · exact fun d decided _ => (run.sound.decided d decided).2.1
  intro thread present results err returned result listed awaiting
  have ends := (standing_of_reaches ran.reaches present).2
  rw [returned] at ends
  obtain ⟨label, past, rest⟩ := thread
  cases label with
  | reconcile worker key provider =>
    have released := ends results err rfl result listed awaiting
    exact (run.released _ present _ _ released).reclaimable run.sound
  | reconcileBatch reconciler runID states =>
    obtain ⟨answer, state, told, member, decision⟩ := ends results err rfl result listed
    have terminal := terminal_of_conclusiveFor
      (run.batches _ present reconciler runID states answer rfl told) member
    rw [← decision, awaiting] at terminal
    cases terminal
  | _ => exact absurd rfl (ends results err)

end

/-! ## An inconclusive query, and a batch that fails -/

def StoreOutcome.first : StoreOutcome → Option ReconciliationResult
  | .reconciled (result :: _) _ => some result
  | _ => none

/-- A worker whose query fails leaves the row for the next attempt. -/
theorem failed_query_leaves_row_open :
    ∃ config, (@reconcilers asciiTables).ReachesBy (@conclusive asciiTables) emptyStore config ∧
      Reclaimable config.shared "key-1" 1 := by
  have played : ((@reconcilers asciiTables).replayBy (@conclusive asciiTables) emptyStore
      (enqueued ++ reconciling 1 { store := some {} } 2 firstLease ++
        [.exec 1 (.rail {} (some .contextDeadlineExceeded)), .exec 1 (.clock 3),
          .exec 1 .proceeds, .exec 1 (.clock 4)])).any
      (fun config => ∃ thread ∈ config.threads, ((thread.rest.returned.bind
        StoreOutcome.first).any fun result => result.decision = .awaitingEvidence ∧
          result.idempotencyKey = "key-1" ∧ result.attempt = 1) = true) = true := by
    decide
  obtain ⟨config, replayed, facts⟩ := (Option.any_eq_true _ _).mp played
  obtain ⟨thread, present, facts⟩ := of_decide_eq_true facts
  obtain ⟨result, first, facts⟩ := (Option.any_eq_true _ _).mp facts
  obtain ⟨awaiting, key, attempt⟩ := of_decide_eq_true facts
  obtain ⟨outcome, returned, first⟩ := Option.bind_eq_some_iff.mp first
  have ran := Machine.reachesBy_of_replayBy replayed
  refine ⟨config, ran, ?_⟩
  match outcome with
  | .reconciled (head :: rest) err =>
    obtain rfl : head = result := Option.some.inj first
    rw [← key, ← attempt]
    exact (@conclusive_runs_leave_rows_open asciiTables config ran).awaiting thread present _ _
      (Program.eq_ret_of_returned returned) head (by simp) awaiting

def claimedState : UnknownState :=
  { lostState with attempts := 1, nextAttemptAt := 1, leaseToken := firstLease }

def failedBatch : List (Action StoreJob StoreChoice Disconnect) :=
  enqueued ++ claiming 1 2 firstLease ++
    [.spawn (.reconcileBatch { store := some {} } "run-1" [claimedState]),
      .exec 2 (.batch (.error (.new "context deadline exceeded"))), .exec 2 (.clock 3)] ++
    storeSteps 2 5

/-- The row is resolved, and its only decision awaits evidence. -/
theorem failed_batch_resolves_row :
    ∃ config, (@reconcilers asciiTables).Reaches emptyStore config ∧
      ∃ row ∈ config.shared.rows.queue, row.resolved = true ∧
        config.shared.rows.decisions.map (fun d => (d.idempotencyKey, d.decision)) =
          [(row.key, .awaitingEvidence)] := by
  refine Machine.exists_of_replay failedBatch ?_
  decide +kernel

end UmojaFlowOS.Multirail
