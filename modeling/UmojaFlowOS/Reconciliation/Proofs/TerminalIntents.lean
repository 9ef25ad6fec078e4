import UmojaFlowOS.Reconciliation.Proofs.IntentTransactions
import UmojaFlowOS.Reconciliation.Proofs.PostedOnce

/-!
# Terminal intents

The terminal status of an intent agrees with its recorded decision, and stays. Both fail
when `MarkUnknown` is executed on an intent that is terminal already, which nothing in its
`UPDATE` prevents.
-/

namespace UmojaFlowOS.Reconciliation

open Go Interaction Ledger Relational

/-! ## Over a run -/

def SystemState.tables (s : SystemState) : IntentTables := s.database.tables

/-- The state of a run in which no terminal intent was overwritten. -/
structure Final (config : SystemConfig) : Prop where
  consistent : Consistent config.shared.tables
  apart : LocksApart config.shared.database.sessions
  fits : ∀ i thread session, config.threads[i]? = some thread →
    config.shared.database.sessions.get i = some session →
    Fits config.shared.tables session (systemSeenIn thread.past).seen.phase
  remembers : ∀ thread ∈ config.threads,
    Remembers config.shared.tables (systemSeenIn thread.past).seen.known

/-- No consumer's `MarkUnknown` is executed on an intent that is terminal. -/
def sparing (config : SystemConfig) : Action ConsumerJob ConsumerChoice SystemEvent → Bool
  | .exec i _ =>
    match config.threads[i]? with
    | some ⟨_, _, .call (.plain (.updateIntent p .unknown _ _ _)) _⟩ =>
      config.shared.tables.intents.all fun row => !(row.boundTo p && row.status.terminal)
    | _ => true
  | _ => true

theorem systemSeenIn_concat (past : List (Event systemCalls)) (event : Event systemCalls) :
    systemSeenIn (past ++ [event]) = (systemSeenIn past).after event := by
  rw [systemSeenIn, List.foldl_append]
  rfl

theorem seen_after_plain (low : SystemSeen) (call : ConsumerCall) (answer : call.Answer) :
    (low.after ⟨.plain call, answer⟩).seen = low.seen.after ⟨call, answer⟩ := by
  cases call <;> rfl

theorem consistent_register {s after : Database}
    (registered : s.register intent = some after) (consistent : Consistent s.tables) :
    Consistent after.tables ∧ s.tables.intents ⊆ after.tables.intents ∧
      after.sessions = s.sessions := by
  unfold Database.register at registered
  split at registered
  · cases registered
  rename_i fresh
  cases registered
  obtain ⟨open_, absent⟩ := not_or.mp fresh
  have different : ∀ row ∈ s.tables.intents, row.key ≠ (intent.tenantID, intent.idempotencyKey) ∧
      row.intent.intentID ≠ intent.intentID := by
    simpa using absent
  refine ⟨⟨?_, ?_, ?_, ?_⟩, List.subset_append_left _ _, rfl⟩
  · exact nodup_map_concat consistent.keys fun row there => (different row there).1
  · exact nodup_map_concat consistent.ids fun row there => (different row there).2
  · intro row present terminal
    rcases mem_concat.mp present with old | rfl
    · exact consistent.decided row old terminal
    · exact absurd terminal open_
  intro decision present
  obtain ⟨terminal, row, there, rest⟩ := consistent.agrees decision present
  exact ⟨terminal, row, by simp [there], rest⟩

theorem evolves_of_subset (kept : tables.intents ⊆ later.intents) : Evolves tables later :=
  fun row present => ⟨row, kept present, .refl row⟩

section
variable [LedgerLibrary] {d : Decoders} {service : PostingService} {inferred : IntType}
  {start : SystemState} {config later : SystemConfig}

omit [LedgerLibrary] in
theorem spares_of_sparing
    (active : config.threads[i]? = some ⟨label, past, .call (.plain call) next⟩)
    (allowed : sparing config (.exec i choice) = true) : Spares config.shared.tables call := by
  rintro p transferID providerRef now rfl row present bound
  rw [sparing, active] at allowed
  have spared := List.all_eq_true.mp allowed row present
  simpa [bound] using spared

omit [LedgerLibrary] in
theorem Final.plain (final : Final config) (active : config.threads[i]? = some ⟨label, past, rest⟩)
    (effect : IntentEffect config.shared.database i call answer after)
    (phased : (systemSeenIn past).seen.phase.permits call)
    (permitted : (systemSeenIn past).seen.known.permits call)
    (spares : Spares config.shared.tables call) :
    Final ⟨{ config.shared with database := after },
        config.threads.set i ⟨label, past ++ [⟨.plain call, answer⟩], next⟩⟩ ∧
      Evolves config.shared.tables after.tables := by
  have mine : ∀ session, config.shared.database.sessions.get i = some session →
      Fits config.shared.tables session (systemSeenIn past).seen.phase := fun session found =>
    final.fits i _ session active found
  have known : Remembers config.shared.tables (systemSeenIn past).seen.known :=
    final.remembers _ (List.mem_of_getElem? active)
  have seen : (systemSeenIn (past ++ [⟨.plain call, answer⟩])).seen =
      (systemSeenIn past).seen.after ⟨call, answer⟩ := by
    rw [systemSeenIn_concat, seen_after_plain]
  -- What the step does to the tables, and that it spares the rows that others have locked.
  obtain ⟨consistent, evolves, kept⟩ : Consistent after.tables ∧
      Evolves config.shared.tables after.tables ∧
      ∀ j session, config.shared.database.sessions.get j = some session → j ≠ i →
        ∀ row ∈ config.shared.tables.intents, session.holds row.key = true →
          row ∈ after.tables.intents := by
    rcases effect.tables_cases with same | ⟨rfl, session, open_, same⟩
    · rw [same]
      exact ⟨final.consistent, .refl _, fun _ _ _ _ _ present _ => present⟩
    have found := Sessions.get_of_live open_
    have committed := ((mine session found).ready phased).committed final.consistent
    rw [same]
    refine ⟨committed.consistent, committed.evolves, ?_⟩
    intro j other listed different row present held
    exact committed.kept row present
      (final.apart j i other session listed found different row.key held)
  refine ⟨⟨consistent, effect.apart final.apart, ?_, ?_⟩, evolves⟩
  · intro j thread session listed found
    rcases getElem?_set_cases listed with ⟨rfl, rfl⟩ | ⟨other, before⟩
    · rw [seen]
      exact effect.fits final.consistent mine known phased permitted spares found
    rw [effect.frame other] at found
    exact (final.fits j thread session before found).of_kept (kept j session found other)
  intro thread present
  rcases List.mem_or_eq_of_mem_set present with old | rfl
  · exact (final.remembers thread old).of_evolves evolves
  · rw [seen]
    exact (effect.remembers mine known phased permitted).of_evolves evolves

section
variable (final : Final config)
  (reached : (consumers d service inferred).Reaches ⟨start, []⟩ config)
include final reached

theorem Final.step (allowed : sparing config action = true)
    (taken : (consumers d service inferred).next config action = some later) :
    Final later ∧ Evolves config.shared.tables later.shared.tables := by
  cases action with
  | spawn label =>
    obtain ⟨program, -, rfl⟩ := Machine.next_spawn taken
    refine ⟨⟨final.consistent, final.apart, ?_, ?_⟩, .refl _⟩
    · intro i thread session listed found
      rcases getElem?_concat_cases listed with ⟨-, rfl⟩ | old
      · exact trivial
      · exact final.fits i thread session old found
    intro thread present
    rcases mem_concat.mp present with old | rfl
    · exact final.remembers thread old
    · exact fun _ _ => nofun
  | exec i choice =>
    obtain ⟨label, past, request, next, answer, shared, active, done, rfl⟩ := Machine.next_exec taken
    have guar := (consumer_of_reaches reached (List.mem_of_getElem? active)).2.1
    cases request with
    | plain call =>
      obtain ⟨⟨given, database⟩, executed, same⟩ := Option.map_eq_some_iff.mp done
      cases same
      exact final.plain active (intentEffect_of_exec executed) guar.1 guar.2.1
        (spares_of_sparing active allowed)
    | ledger port =>
      have unchanged : shared.database = config.shared.database := by
        cases choice with
        | ledger choice =>
          obtain ⟨⟨given, ledger⟩, -, same⟩ := Option.map_eq_some_iff.mp done
          cases same
          rfl
        | _ => cases done
      have seen : (systemSeenIn (past ++ [⟨.ledger port, answer⟩])).seen =
          (systemSeenIn past).seen := by
        rw [systemSeenIn_concat]
        rfl
      have tables : shared.tables = config.shared.tables := congrArg Database.tables unchanged
      refine ⟨⟨?_, ?_, ?_, ?_⟩, ?_⟩
      · rw [tables]
        exact final.consistent
      · rw [unchanged]
        exact final.apart
      · intro j thread session listed found
        rw [tables]
        rw [unchanged] at found
        rcases getElem?_set_cases listed with ⟨rfl, rfl⟩ | ⟨-, before⟩
        · rw [seen]
          exact final.fits j _ session active found
        · exact final.fits j thread session before found
      · intro thread present
        rw [tables]
        rcases List.mem_or_eq_of_mem_set present with old | rfl
        · exact final.remembers thread old
        · rw [seen]
          exact final.remembers _ (List.mem_of_getElem? active)
      · rw [tables]
        exact .refl _
  | env event =>
    obtain ⟨shared, changed, rfl⟩ := Machine.next_env taken
    cases event with
    | disconnects gone =>
      cases changed
      refine ⟨⟨final.consistent, final.apart.close gone, ?_, final.remembers⟩, .refl _⟩
      intro i thread session listed found
      exact final.fits i thread session listed (Sessions.get_of_get_close found).2
    | registers intent =>
      obtain ⟨database, registered, rfl⟩ := Option.map_eq_some_iff.mp changed
      obtain ⟨consistent, kept, sessions⟩ := consistent_register registered final.consistent
      have evolves := evolves_of_subset kept
      refine ⟨⟨consistent, ?_, ?_, ?_⟩, evolves⟩
      · rw [sessions]
        exact final.apart
      · intro i thread session listed found
        rw [sessions] at found
        exact (final.fits i thread session listed found).of_kept fun row present _ => kept present
      · exact fun thread present => (final.remembers thread present).of_evolves evolves
    | creates batch =>
      cases changed
      exact ⟨⟨final.consistent, final.apart, final.fits, final.remembers⟩, .refl _⟩

theorem Final.run (ran : (consumers d service inferred).ReachesBy sparing config later) :
    Final later ∧ Evolves config.shared.tables later.shared.tables := by
  induction ran with
  | refl => exact ⟨final, .refl _⟩
  | tail action before allowed taken ih =>
    obtain ⟨middle, evolves⟩ := ih
    obtain ⟨last, again⟩ := middle.step (reached.trans before.reaches) allowed taken
    exact ⟨last, evolves.trans again⟩

end

omit [LedgerLibrary] in
theorem final_of_start (consistent : Consistent start.tables)
    (idle : start.database.sessions = {}) : Final ⟨start, []⟩ := by
  refine ⟨consistent, ?_, ?_, ?_⟩
  · rw [idle]
    exact Sessions.apart_empty
  · intro i thread session listed
    cases listed
  · intro thread present
    cases present

/-- In every run from consistent tables in which `MarkUnknown` is executed on no terminal
intent, the tables stay consistent: a status is terminal exactly if it is the recorded
decision of its key. And from every state of such a run on, each intent that is terminal
there keeps its status. -/
theorem terminal_intents_are_final (consistent : Consistent start.tables)
    (idle : start.database.sessions = {})
    (ran : (consumers d service inferred).ReachesBy sparing ⟨start, []⟩ config) :
    Consistent config.shared.tables ∧
      ∀ later, (consumers d service inferred).ReachesBy sparing config later →
        ∀ row ∈ config.shared.tables.intents, row.status.terminal = true →
          ∃ new ∈ later.shared.tables.intents, new.key = row.key ∧ new.status = row.status := by
  have final := ((final_of_start consistent idle).run .refl ran).1
  refine ⟨final.consistent, fun later further row present terminal => ?_⟩
  obtain ⟨new, there, becomes⟩ := (final.run ran.reaches further).2 row present
  exact ⟨new, there, becomes.key, becomes.final terminal⟩

end

/-! ## Two events of one intent -/

/-- The intent of `oneIntent` has this status. -/
def SystemState.shows (status : IntentStatus) (s : SystemState) : Bool :=
  s.tables.intents.any fun row => row.key = ("tenant-1", "key-1") && row.status = status

theorem consistent_oneIntent : Consistent oneIntent.tables where
  keys := List.nodup_singleton _
  ids := List.nodup_singleton _
  decided row present terminal := by
    rw [List.mem_singleton.mp present] at terminal
    cases terminal
  agrees _ present := absurd present List.not_mem_nil

/-- The run that settles the intent overwrites nothing. -/
theorem settled_intent_is_final :
    ∃ config, (@consumers asciiLedger (selfDigesting [("event-1", settledEvent 100)]) usdcService .bigint).ReachesBy
        sparing ⟨oneIntent, []⟩ config ∧
      config.shared.shows .settled = true ∧ Consistent config.shared.tables := by
  let := asciiLedger
  have found : ∃ config,
      (consumers (selfDigesting [("event-1", settledEvent 100)]) usdcService .bigint).ReachesBy sparing
        ⟨oneIntent, []⟩ config ∧ config.shared.shows .settled = true :=
    Machine.exists_of_replayBy settlingSchedule (by decide +kernel)
  obtain ⟨config, ran, settled⟩ := found
  exact ⟨config, ran, settled, (terminal_intents_are_final consistent_oneIntent rfl ran).1⟩

def strayEvent : SettlementReconciledPayload :=
  { settledEvent 100 with intentID := "00000000-0000-4000-8000-000000000002" }

def strayDecoders : Decoders :=
  selfDigesting [("event-1", settledEvent 100), ("event-2", strayEvent)]

/-- A second consumer is delivered the stray event, loads the intent and marks it. -/
def straySchedule : List (Action ConsumerJob ConsumerChoice SystemEvent) :=
  [.spawn ⟨settlements, 1⟩, .exec 1 (.polls (.ok [recordOf "event-2" strayEvent])),
    .exec 1 (.ends none), .exec 1 (.reads 2)] ++ List.replicate 14 (.exec 1 .proceeds)

/-- The stray event makes the settled intent unknown, against its recorded decision. -/
theorem settled_intent_is_overwritten :
    ∃ config later, (@consumers asciiLedger strayDecoders usdcService .bigint).Reaches
        ⟨oneIntent, []⟩ config ∧
      (@consumers asciiLedger strayDecoders usdcService .bigint).Reaches config later ∧
      config.shared.shows .settled = true ∧ later.shared.shows .settled = false ∧
      later.shared.shows .unknown = true ∧
      later.shared.tables.decisions.map (fun decision => (decision.key, decision.decision)) =
        [(("tenant-1", "key-1"), .settled)] := by
  let := asciiLedger
  have found : (((consumers strayDecoders usdcService .bigint).replay ⟨oneIntent, []⟩
      settlingSchedule).any fun config => config.shared.shows .settled &&
      ((consumers strayDecoders usdcService .bigint).replay config straySchedule).any fun later =>
        !later.shared.shows .settled && later.shared.shows .unknown &&
        later.shared.tables.decisions.map (fun decision => (decision.key, decision.decision)) =
          [(("tenant-1", "key-1"), IntentStatus.settled)]) = true := by
    decide +kernel
  obtain ⟨config, first, settled⟩ := (Option.any_eq_true _ _).mp found
  obtain ⟨shown, rest⟩ := Bool.and_eq_true_iff.mp settled
  obtain ⟨later, second, overwritten⟩ := (Option.any_eq_true _ _).mp rest
  simp only [Bool.and_eq_true, Bool.not_eq_true', decide_eq_true_eq] at overwritten
  exact ⟨config, later, Machine.reaches_of_replay first, Machine.reaches_of_replay second, shown,
    overwritten.1.1, overwritten.1.2, overwritten.2⟩

end UmojaFlowOS.Reconciliation
