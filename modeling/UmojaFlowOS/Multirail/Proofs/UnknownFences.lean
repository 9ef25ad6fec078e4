import UmojaFlowOS.Multirail.Proofs.UnknownInvariant

/-!
# Attempts as fences

Every claim of an unknown state takes a new attempt number, and what a worker writes is
conditional on that number: a worker that was overtaken changes nothing.
-/

namespace UmojaFlowOS.Multirail

open Go Interaction Relational

/-- The actions meant: all workers have one limit, decisions are terminal, and whoever
queries holds the latest claim of the row. -/
def fenced (limit : Int) (config : StoreConfig) : Action StoreJob StoreChoice Disconnect → Bool
  | .spawn (.reconcile worker _ _) => worker.limit = limit
  | .exec i _ =>
    match config.threads[i]? with
    | some ⟨_, _, .call (.insertDecision result) _⟩ => result.decision.terminal
    | some ⟨_, past, .call (.query intent) _⟩ =>
      config.shared.rows.queue.all fun row => row.key ≠ intent.idempotencyKey ||
        (seenIn past).facts.claim.any fun state => row.attempts ≤ state.attempts
    | _ => true
  | _ => true

/-- The two tables agree, and no one has submitted anything. -/
structure Reconciled (config : StoreConfig) : Prop where
  resolved_iff : ∀ row ∈ config.shared.rows.queue, row.resolved = true ↔
    ∃ d ∈ config.shared.rows.decisions, d.idempotencyKey = row.key ∧ d.attempt = row.attempts
  single : ∀ row ∈ config.shared.rows.queue, row.resolved = true →
    (config.shared.rows.decisions.filter (·.idempotencyKey = row.key)).length ≤ 1
  unauthorised : ∀ d ∈ config.shared.rows.decisions, d.settlementAllowed = false
  unsubmitted : ∀ thread ∈ config.threads, ∀ event ∈ thread.past, ∀ intent,
    event.call ≠ .submit intent

/-- The claim under which a write is made. -/
def Write.fence : Write → Option (String × Nat)
  | .enqueue _ => none
  | .decide d => some (d.idempotencyKey, d.attempt)
  | .resolve key attempt _ _ => some (key, attempt)

/-- The row of the claim was claimed again. -/
def TakenOver (rows : Rows) (key : String) (attempt : Nat) : Prop :=
  ∃ row ∈ rows.queue, row.key = key ∧ attempt < row.attempts

/-- A statement under a claim that was taken over. -/
def Overtaken (s : Tables) (i : Nat) : StoreCall → Prop
  | .rescheduleRow key attempts _ _ _ => TakenOver s.rows key attempts
  | .insertDecision result => TakenOver s.rows result.idempotencyKey result.attempt
  | .resolveRow key attempt _ _ => TakenOver s.rows key attempt
  | .commit => ∃ session, s.sessions.get i = some session ∧ ∃ write ∈ session.writes,
      ∃ key attempt, write.fence = some (key, attempt) ∧ TakenOver s.rows key attempt
  | _ => False

def Claimed (config later : StoreConfig) (key : String) (state : UnknownState) : Prop :=
  ∃ (i : Nat) (before after : StoreThread) (now leaseUntil : Time) (lease : String),
    config.threads[i]? = some before ∧ later.threads[i]? = some after ∧
    after.past = before.past ++ [⟨.claimRow key now leaseUntil lease, .ok state⟩]

/-- What one action does. -/
structure FencedStep (limit : Int) (config later : StoreConfig)
    (action : Action StoreJob StoreChoice Disconnect) : Prop where
  grows : ∀ row ∈ config.shared.rows.queue, ∃ kept ∈ later.shared.rows.queue,
    kept.key = row.key ∧ row.attempts ≤ kept.attempts
  claims : ∀ key state, Claimed config later key state →
    ∃ row ∈ config.shared.rows.queue, ∃ taken ∈ later.shared.rows.queue,
      row.key = key ∧ taken.key = key ∧ taken.attempts = row.attempts + 1 ∧
        state.attempts = taken.attempts
  overtaken : ∀ i label past call, Answering config action i label past call →
    Overtaken config.shared i call → later.shared.rows = config.shared.rows
  queries : ∀ i label past intent, Answering config action i label past (.query intent) →
    ∀ row ∈ config.shared.rows.queue, row.key = intent.idempotencyKey → (row.attempts : Int) < limit

section
variable {s : Tables} {i : Nat} {call : StoreCall}

/-! ## One statement -/

theorem mem_visible_of_commit (sound : SoundTables s)
    (found : s.sessions.get i = some session) (present : row ∈ s.rows.queue) :
    ∃ kept ∈ (session.visible s.rows).queue, kept.key = row.key ∧ kept.attempts = row.attempts := by
  have pending := sound.pending i session found
  rw [Session.visible]
  generalize session.writes = writes at pending
  cases pending with
  | nothing | decide => exact ⟨row, present, rfl, rfl⟩
  | enqueue absent open_ => exact ⟨row, List.mem_append_left _ present, rfl, rfl⟩
  | @resolve d lease decidedAt fresh held =>
    by_cases matched : row.heldBy d.idempotencyKey d.attempt lease = true
    · exact ⟨row.closed decidedAt, mem_updateWhere.mpr (.inl ⟨row, present, matched, rfl⟩), rfl, rfl⟩
    · exact ⟨row, mem_updateWhere.mpr (.inr ⟨present, by simpa using matched⟩), rfl, rfl⟩

theorem StoreEffect.grows (effect : StoreEffect s i call answer after) (sound : SoundTables s)
    (present : row ∈ s.rows.queue) :
    ∃ kept ∈ after.rows.queue, kept.key = row.key ∧ row.attempts ≤ kept.attempts := by
  cases effect with
  | @claims key now found answer leaseUntil lease free first told =>
    by_cases matched : row.claimable key now = true
    · exact ⟨row.claimed leaseUntil lease, mem_updateWhere.mpr (.inl ⟨row, present, matched, rfl⟩),
        rfl, Nat.le_succ _⟩
    · exact ⟨row, mem_updateWhere.mpr (.inr ⟨present, by simpa using matched⟩), rfl, Nat.le_refl _⟩
  | @reschedules key answer attempts lease next reason free told =>
    by_cases matched : row.heldBy key attempts lease = true
    · exact ⟨row.rescheduled next reason,
        mem_updateWhere.mpr (.inl ⟨row, present, matched, rfl⟩), rfl, Nat.le_refl _⟩
    · exact ⟨row, mem_updateWhere.mpr (.inr ⟨present, by simpa using matched⟩), rfl, Nat.le_refl _⟩
  | @commits session answer open_ =>
    obtain ⟨kept, there, key, attempts⟩ := mem_visible_of_commit sound (Sessions.get_of_live open_) present
    exact ⟨kept, there, key, Nat.le_of_eq attempts.symm⟩
  | _ => exact ⟨row, present, rfl, Nat.le_refl _⟩

theorem StoreEffect.claimed
    (effect : StoreEffect s i (.claimRow key now leaseUntil lease) (.ok state) after) :
    ∃ row ∈ s.rows.queue, ∃ taken ∈ after.rows.queue, row.key = key ∧ taken.key = key ∧
      taken.attempts = row.attempts + 1 ∧ state.attempts = taken.attempts := by
  cases effect with
  | @claims _ _ row _ _ _ free found told =>
    have matched := List.find?_some found
    have present := List.mem_of_find?_eq_some found
    have key := (claimable_iff.mp matched).1
    refine ⟨row, present, row.claimed leaseUntil lease,
      mem_updateWhere.mpr (.inl ⟨row, present, matched, rfl⟩), key, key, rfl, ?_⟩
    rcases told with same | ⟨text, failed⟩
    · rw [Except.ok.inj same]
      rfl
    · cases failed
  | idle told | spoils told | closes told => exact absurd (told .outside {}).2.1 nofun

theorem SoundTables.not_heldBy (sound : SoundTables s) (late : TakenOver s.rows key attempt)
    (present : row ∈ s.rows.queue) : row.heldBy key attempt lease = false := by
  obtain ⟨newer, there, same, less⟩ := late
  by_contra held
  obtain ⟨rowKey, attempts, -, -⟩ := heldBy_iff.mp (by simpa using held)
  rw [sound.row_unique there present (same.trans rowKey.symm)] at less
  omega

/-- What is committed was written under the latest claim. -/
theorem SoundTables.not_overtaken (sound : SoundTables s) (found : s.sessions.get i = some session)
    (fits : Fits s.rows session.writes phase) (permitted : phase.permits .commit) {write : Write}
    (written : write ∈ session.writes) (fence : write.fence = some (key, attempt)) :
    ¬ TakenOver s.rows key attempt := by
  intro late
  rcases permitted with rfl | ⟨result, rfl | rfl⟩
  · rcases fits with nothing | ⟨row, writes⟩
    · rw [nothing] at written
      cases written
    rw [writes, List.mem_singleton] at written
    rw [written] at fence
    cases fence
  · obtain ⟨lease, decidedAt, writes⟩ := fits
    have locking : Write.resolve result.idempotencyKey result.attempt lease decidedAt ∈
        session.writes := by simp [writes]
    obtain ⟨⟨row, present, held⟩, -⟩ := (sound.pending i session found).held locking
    have same : result.idempotencyKey = key ∧ result.attempt = attempt := by
      rw [writes] at written
      rcases List.mem_cons.mp written with rfl | second
      · exact Prod.mk.inj (Option.some.inj fence)
      · rw [List.mem_singleton.mp second] at fence
        exact Prod.mk.inj (Option.some.inj fence)
    rw [same.1, same.2] at held
    rw [sound.not_heldBy late present] at held
    cases held
  have nothing : session.writes = [] := fits
  rw [nothing] at written
  cases written

theorem StoreEffect.overtaken (effect : StoreEffect s i call answer after) (sound : SoundTables s)
    (fits : ∀ session, s.sessions.get i = some session → Fits s.rows session.writes phase)
    (permitted : phase.permits call) (late : Overtaken s i call) : after.rows = s.rows := by
  cases effect with
  | claims free found told => exact late.elim
  | reschedules free told =>
    show (⟨_, s.rows.decisions⟩ : Rows) = s.rows
    rw [updateWhere_of_none fun row present => sound.not_heldBy late present]
  | @commits session answer open_ =>
    obtain ⟨other, found, write, written, key, attempt, fence, taken⟩ := late
    exact absurd taken (sound.not_overtaken found (fits other found) permitted written fence)
  | _ => rfl

end

/-! ## Runs -/

section
variable [CaseTables] {limit : Int} {config later : StoreConfig}
  {action : Action StoreJob StoreChoice Disconnect}

omit [CaseTables] in
theorem terminal_of_fenced (meant : fenced limit config action = true)
    (answering : Answering config action i label past (.insertDecision result)) :
    result.decision.terminal = true := by
  obtain ⟨⟨choice, rfl⟩, next, active⟩ := answering
  simp only [fenced, active] at meant
  exact meant

structure FencedRun (limit : Int) (config : StoreConfig) : Prop extends TablesKept config where
  limits : ∀ thread ∈ config.threads, ∀ worker key provider,
    thread.label = .reconcile worker key provider → worker.limit = limit

theorem fencedRun_of_reaches
    (ran : reconcilers.ReachesBy (fenced limit) emptyStore config) : FencedRun limit config := by
  induction ran with
  | refl => exact ⟨tablesKept_empty, fun _ none_ => absurd none_ List.not_mem_nil⟩
  | tail action before meant taken ih =>
    refine ⟨ih.toTablesKept.step before.reaches taken fun i label past result answering =>
      terminal_of_fenced meant answering, ?_⟩
    intro thread present worker key provider label
    cases action with
    | spawn job =>
      obtain ⟨program, -, rfl⟩ := Machine.next_spawn taken
      rcases mem_concat.mp present with old | rfl
      · exact ih.limits thread old worker key provider label
      · obtain rfl : job = .reconcile worker key provider := label
        simpa [fenced] using meant
    | exec i choice =>
      obtain ⟨_, past, call, next, answer, after, active, -, rfl⟩ := Machine.next_exec taken
      rcases List.mem_or_eq_of_mem_set present with old | rfl
      · exact ih.limits thread old worker key provider label
      · exact ih.limits _ (List.mem_of_getElem? active) worker key provider label
    | env event =>
      obtain ⟨shared, -, rfl⟩ := Machine.next_env taken
      exact ih.limits thread present worker key provider label

section
variable (run : FencedRun limit config) (reached : reconcilers.Reaches emptyStore config)
include run reached

theorem FencedRun.reconciled : Reconciled config where
  resolved_iff row present := by
    refine ⟨run.sound.resolved row present, fun ⟨d, decided, key, _⟩ => ?_⟩
    exact (run.sound.resolved_of_decided decided present key.symm).1
  single row _ _ := by
    have once := List.nodup_iff_count_le_one.mp run.sound.once row.key
    rw [List.count, List.countP_map] at once
    rw [← List.countP_eq_length_filter]
    exact once
  unauthorised d present := (run.sound.decided d present).1
  unsubmitted thread present event member intent same := by
    obtain ⟨seen, permitted, -⟩ :=
      (standing_of_reaches reached present).1.of_mem member
    rw [same] at permitted
    exact permitted

/-- No query is made from the last attempt on. -/
theorem FencedRun.queries (meant : fenced limit config action = true)
    (answering : Answering config action i label past (.query intent))
    (present : row ∈ config.shared.rows.queue) (key : row.key = intent.idempotencyKey) :
    (row.attempts : Int) < limit := by
  obtain ⟨⟨choice, rfl⟩, next, active⟩ := answering
  have permitted := (permitted_of_reaches reached active).2
  simp only [fenced, active, List.all_eq_true] at meant
  have latest := meant row present
  rw [Bool.or_eq_true, decide_eq_true_eq] at latest
  cases label with
  | reconcile worker name provider =>
    obtain ⟨state, claim, -, below⟩ := permitted
    have limits := run.limits _ (List.mem_of_getElem? active) worker name provider rfl
    rcases latest with other | latest
    · exact absurd key other
    · rw [claim, Option.any_some, decide_eq_true_eq] at latest
      omega
  | _ => exact permitted.elim

theorem FencedRun.step (meant : fenced limit config action = true)
    (taken : reconcilers.next config action = some later) :
    FencedStep limit config later action where
  queries i label past intent answering row present key :=
    run.queries reached meant answering present key
  grows row present := by
    cases action with
    | spawn job =>
      obtain ⟨program, -, rfl⟩ := Machine.next_spawn taken
      exact ⟨row, present, rfl, Nat.le_refl _⟩
    | exec i choice =>
      obtain ⟨label, past, call, next, answer, after, active, done, rfl⟩ := Machine.next_exec taken
      exact (effect_of_exec done).grows run.sound present
    | env event =>
      obtain ⟨shared, changed, rfl⟩ := Machine.next_env taken
      obtain rfl : config.shared.close event.thread = shared := Option.some.inj changed
      exact ⟨row, present, rfl, Nat.le_refl _⟩
  claims key state claimed := by
    obtain ⟨i, before, after, now, leaseUntil, lease, first, second, longer⟩ := claimed
    obtain ⟨choice, next, -, -, done⟩ := Machine.next_answered taken first second longer
    exact (effect_of_exec done).claimed
  overtaken j label past call answering late := by
    obtain ⟨⟨choice, rfl⟩, next, active⟩ := answering
    obtain ⟨label', past', call', next', answer, after, active', done, rfl⟩ := Machine.next_exec taken
    obtain ⟨⟩ := Option.some.inj (active.symm.trans active')
    exact (effect_of_exec done).overtaken run.sound (run.fits j _ active)
      (permitted_of_reaches reached active).1 late

end

/-- In every run of such actions the tables agree in every state reached, and each
further one claims, writes and queries as its claim allows. -/
theorem fenced_runs_are_reconciled (limit : Int) (config : StoreConfig)
    (ran : reconcilers.ReachesBy (fenced limit) emptyStore config) :
    Reconciled config ∧
      ∀ action later, fenced limit config action = true →
        reconcilers.next config action = some later → FencedStep limit config later action := by
  have run := fencedRun_of_reaches ran
  exact ⟨run.reconciled ran.reaches, fun action later meant taken => run.step ran.reaches meant taken⟩

end

/-! ## A worker that comes late -/

/-- An instruction whose payload is an empty object. -/
def lostState : UnknownState where
  intent := { id := "intent-1", idempotencyKey := "key-1", payload := [0x7b, 0x7d] }
  primaryRail := "rail-a"
  observedStatus := .unknown

def storeSteps (thread calls : Nat) : List (Action StoreJob StoreChoice Disconnect) :=
  List.replicate calls (.exec thread .proceeds)

def enqueued : List (Action StoreJob StoreChoice Disconnect) :=
  [.spawn (.enqueueUnknown {} lostState), .exec 0 (.clock 1)] ++ storeSteps 0 4

/-- A worker claims it at a time and is about to query or to decide. -/
def reconciling (thread : Nat) (worker : ReconciliationWorker) (now : Time) (lease : String) :
    List (Action StoreJob StoreChoice Disconnect) :=
  [.spawn (.reconcile worker "key-1" (some ⟨"rail-a"⟩)), .exec thread (.clock now),
    .exec thread (.token (.ok lease)), .exec thread .proceeds]

def firstLease : String := "11111111-1111-4111-8111-111111111111"

def secondLease : String := "22222222-2222-4222-8222-222222222222"

/-- A decision as the batch reconciler records it for the first claim. -/
def lateDecision : ReconciliationResult where
  intentID := "intent-1"
  idempotencyKey := "key-1"
  primaryRail := "rail-a"
  decision := .awaitingEvidence
  observedStatus := .unknown
  attempt := 1
  evidenceDigest := "digest-1"
  leaseToken := firstLease

def timelyDecision : ReconciliationResult :=
  { lateDecision with
    decision := .providerAccepted
    observedStatus := .settled
    attempt := 2
    evidenceDigest := "digest-2"
    leaseToken := secondLease }

def claiming (thread : Nat) (now : Time) (lease : String) :
    List (Action StoreJob StoreChoice Disconnect) :=
  [.spawn (.claim {} "key-1" now), .exec thread (.token (.ok lease)), .exec thread .proceeds]

/-- The first claim expires, the row is claimed again and resolved, and then a decision of
the first claim is recorded. -/
def overtakenSchedule : List (Action StoreJob StoreChoice Disconnect) :=
  enqueued ++ claiming 1 2 firstLease ++ claiming 2 120000000002 secondLease ++
    [.spawn (.recordDecision {} timelyDecision)] ++ storeSteps 3 5 ++
    [.spawn (.recordDecision {} lateDecision)] ++ storeSteps 4 6

/-- The overtaken caller adds a second decision to a resolved key. -/
theorem late_evidence_is_recorded :
    ∃ config, (@reconcilers asciiTables).Reaches emptyStore config ∧
      ∃ row ∈ config.shared.rows.queue, row.resolved = true ∧ row.attempts = 2 ∧
        (config.shared.rows.decisions.filter (·.idempotencyKey = row.key)).map
          (fun d => (d.attempt, d.decision)) =
          [(2, .providerAccepted), (1, .awaitingEvidence)] := by
  refine Machine.exists_of_replay overtakenSchedule ?_
  decide

/-- A worker that is not overtaken leaves one decision, and the tables agree. -/
theorem settled_key_is_reconciled :
    ∃ config, (@reconcilers asciiTables).ReachesBy (fenced 12) emptyStore config ∧
      config.shared.rows.decisions.length = 1 ∧ Reconciled config := by
  have played : ∃ config, (@reconcilers asciiTables).ReachesBy (fenced 12) emptyStore config ∧
      config.shared.rows.decisions.length = 1 :=
    Machine.exists_of_replayBy (enqueued ++ reconciling 1 { store := some {} } 2 firstLease ++
      [.exec 1 (.rail { status := .settled } none), .exec 1 (.clock 3)] ++ storeSteps 1 5)
      (by decide +kernel)
  obtain ⟨config, ran, one⟩ := played
  exact ⟨config, ran, one, (@fenced_runs_are_reconciled asciiTables 12 config ran).1⟩

end UmojaFlowOS.Multirail
