import UmojaFlowOS.Multirail.UnknownTables

/-!
# What the reconcilers ask

A contract that every caller of the store keeps, whatever it is answered: the order
of the statements in its transactions, which intent it queries, and which decisions it
records.
-/

namespace UmojaFlowOS.Multirail

open Go Interaction

/-! ## What a caller has seen -/

inductive Phase where
  | outside
  | begun
  | enqueuing
  | refused (result : ReconciliationResult)
  | staged (result : ReconciliationResult)
  | repeated (result : ReconciliationResult)
  | missed (result : ReconciliationResult)
  | settled (result : ReconciliationResult)
  | confirmed (result : ReconciliationResult)

namespace Phase

/-- The digest of an existing decision was found. -/
def comparing (digest : String) : Phase → Phase
  | refused result => if digest = result.evidenceDigest then repeated result else outside
  | _ => outside

/-- The row was found held by the worker, or not. -/
def resolving (affected : Nat) : Phase → Phase
  | staged result => if affected = 1 then settled result else missed result
  | repeated result => if affected = 1 then settled result else missed result
  | _ => outside

/-- The row was found resolved with the worker's own evidence, or not. -/
def confirming (resolvedAt : Option Time) (digest : String) : Phase → Phase
  | missed result =>
    if resolvedAt = none ∨ digest ≠ result.evidenceDigest then outside else confirmed result
  | _ => outside

def after (phase : Phase) : Event storeCalls → Phase
  | ⟨.beginTx, none⟩ => begun
  | ⟨.insertUnknown _ _ _, .ok _⟩ => enqueuing
  | ⟨.selectBinding _, .ok _⟩ => phase
  | ⟨.insertDecision result, .ok _⟩ => staged result
  | ⟨.insertDecision result, .error .noRows⟩ => refused result
  | ⟨.selectDigest _ _, .ok digest⟩ => phase.comparing digest
  | ⟨.resolveRow _ _ _ _, .ok affected⟩ => phase.resolving affected
  | ⟨.selectResolution _ _, .ok (resolvedAt, digest)⟩ => phase.confirming resolvedAt digest
  | _ => outside

end Phase

/-- What a caller was told: the last claim, the answer to its batch, and the claim it has
given back. -/
structure Facts where
  claim : Option UnknownState := none
  batch : Option (Except GoError IdemBatchResponse) := none
  released : Option (String × Nat) := none

def Facts.after (facts : Facts) : Event storeCalls → Facts
  | ⟨.claimRow _ _ _ _, .ok state⟩ => { facts with claim := some state }
  | ⟨.reconcileBatch _ _, answer⟩ => { facts with batch := some answer }
  | ⟨.rescheduleRow key attempts _ _ _, .ok 1⟩ => { facts with released := some (key, attempts) }
  | _ => facts

structure Seen where
  phase : Phase := .outside
  facts : Facts := {}

def Seen.after (seen : Seen) (event : Event storeCalls) : Seen :=
  ⟨seen.phase.after event, seen.facts.after event⟩

def seenIn (past : List (Event storeCalls)) : Seen := past.foldl Seen.after {}

/-! ## The contract -/

/-- Which statement may come when. No caller submits. -/
def Phase.permits (phase : Phase) : StoreCall → Prop
  | .insertUnknown _ _ _ => phase = .begun
  | .insertDecision _ => phase = .begun
  | .selectDigest key attempt =>
    ∃ result, phase = .refused result ∧ key = result.idempotencyKey ∧ attempt = result.attempt
  | .resolveRow key attempt _ _ => ∃ result, (phase = .staged result ∨ phase = .repeated result) ∧
      key = result.idempotencyKey ∧ attempt = result.attempt
  | .selectResolution key attempt =>
    ∃ result, phase = .missed result ∧ key = result.idempotencyKey ∧ attempt = result.attempt
  | .commit => phase = .enqueuing ∨ ∃ result, phase = .settled result ∨ phase = .confirmed result
  | .submit _ => False
  | _ => True

section
variable [CaseTables]

def batchDecision (answer : Except GoError IdemBatchResponse) (runID : String)
    (state : UnknownState) : ReconciliationDecision :=
  match answer with
  | .error _ => .awaitingEvidence
  | .ok response =>
    if response.runID ≠ runID then .awaitingEvidence else (response.verdict state).1

section
variable (facts : Facts)

/-- A result that the answer to the batch leads to. -/
def Facts.Batched (runID : String) (states : List UnknownState)
    (result : ReconciliationResult) : Prop :=
  ∃ answer state, facts.batch = some answer ∧ state ∈ states ∧
    result.decision = batchDecision answer runID state

/-- The intents a call queries: the worker's own claim, below its limit. -/
def StoreJob.queries (intent : Intent) : StoreJob → Prop
  | reconcile worker _ _ => ∃ state, facts.claim = some state ∧ state.intent = intent ∧
      (state.attempts : Int) < worker.limit
  | _ => False

/-- The decisions a call records. -/
def StoreJob.records (result : ReconciliationResult) : StoreJob → Prop
  | recordDecision _ given => result = given
  | reconcile _ _ _ => result.decision.terminal = true
  | reconcileBatch _ runID states => facts.Batched runID states result
  | _ => False

def StoreJob.permits (job : StoreJob) : StoreCall → Prop
  | .query intent => job.queries facts intent
  | .insertDecision result => job.records facts result
  | _ => True

end

def storeContract (job : StoreJob) : Contract storeCalls Seen where
  rely _ _ := True
  guar seen call := seen.phase.permits call ∧ job.permits seen.facts call
  observe := Seen.after

end

theorem conclude_terminal (observed : Submission) : (conclude observed).1.terminal = true := by
  unfold conclude
  split
  · rfl
  · split <;> rfl

section
variable [CaseTables] {job : StoreJob} {seen : Seen} {α : Type} {post : Seen → α → Prop}

theorem meets_askStore (phase : seen.phase.permits call) (permitted : job.permits seen.facts call)
    (meets : ∀ answer, Meets (storeContract job) post (seen.after ⟨call, answer⟩) (rest answer)) :
    Meets (storeContract job) post seen (askStore call >>= rest) :=
  ⟨⟨phase, permitted⟩, fun answer _ => meets answer⟩

theorem inTx_meets (meets : Meets (storeContract job) (fun later _ => later.facts = seen.facts)
      ⟨.begun, seen.facts⟩ body) :
    Meets (storeContract job) (fun later _ => later.facts = seen.facts) seen (inTx body) := by
  refine meets_askStore trivial trivial fun err => ?_
  rcases err with _ | err
  case some => exact rfl
  refine Meets.bind meets fun later value same => ?_
  refine meets_askStore trivial trivial fun _ => ?_
  exact same

theorem enqueueTx_meets (state : UnknownState) (digest : String) (due : Time) (facts : Facts) :
    Meets (storeContract job) (fun later _ => later.facts = facts) ⟨.begun, facts⟩
      (enqueueTx state digest due) := by
  refine meets_askStore rfl trivial fun answer => ?_
  rcases answer with err | affected
  · exact rfl
  dsimp only
  split
  · refine meets_askStore trivial trivial fun answer => ?_
    rcases answer with err | existing
    · exact rfl
    dsimp only
    split
    · exact rfl
    · exact ⟨⟨.inl rfl, trivial⟩, fun _ _ => rfl⟩
  · exact ⟨⟨.inl rfl, trivial⟩, fun _ _ => rfl⟩

variable {result : ReconciliationResult}

theorem resolveTx_meets (inserted : phase = .staged result ∨ phase = .repeated result) :
    Meets (storeContract job) (fun later _ => later.facts = facts) ⟨phase, facts⟩
      (resolveTx result) := by
  refine meets_askStore ⟨result, inserted, rfl, rfl⟩ trivial fun answer => ?_
  rcases answer with err | affected
  · exact rfl
  have next : phase.resolving affected =
      if affected = 1 then .settled result else .missed result := by
    rcases inserted with rfl | rfl <;> rfl
  show Meets (storeContract job) _ ⟨phase.resolving affected, facts⟩ _
  dsimp only
  by_cases found : affected = 1
  · rw [if_neg (not_not.mpr found), next, if_pos found]
    exact ⟨⟨.inr ⟨result, .inl rfl⟩, trivial⟩, fun _ _ => rfl⟩
  rw [if_pos found, next, if_neg found]
  refine meets_askStore ⟨result, rfl, rfl, rfl⟩ trivial fun answer => ?_
  rcases answer with err | existing
  · exact rfl
  obtain ⟨resolvedAt, digest⟩ := existing
  show Meets (storeContract job) _ ⟨Phase.confirming resolvedAt digest (.missed result), facts⟩ _
  dsimp only [Phase.confirming]
  by_cases lost : resolvedAt = none ∨ digest ≠ result.evidenceDigest
  · rw [if_pos lost, if_pos lost]
    exact rfl
  · rw [if_neg lost, if_neg lost]
    exact ⟨⟨.inr ⟨result, .inr rfl⟩, trivial⟩, fun _ _ => rfl⟩

theorem recordTx_meets (recorded : job.records facts result) :
    Meets (storeContract job) (fun later _ => later.facts = facts) ⟨.begun, facts⟩
      (recordTx result) := by
  refine meets_askStore rfl recorded fun answer => ?_
  rcases answer with err | inserted
  case ok => exact resolveTx_meets (.inl rfl)
  cases err with
  | noRows =>
    refine meets_askStore ⟨result, rfl, rfl, rfl⟩ trivial fun answer => ?_
    rcases answer with err | digest
    · exact rfl
    dsimp only
    split
    · exact rfl
    · rename_i same
      exact resolveTx_meets (.inr (if_pos (not_not.mp same)))
  | _ => exact rfl

section
variable (store : UnknownStore)

theorem recordDecision_meets (recorded : job.records seen.facts result) :
    Meets (storeContract job) (fun later _ => later.facts = seen.facts) seen
      (recordDecision store result) := by
  unfold recordDecision
  split
  · exact rfl
  split
  · exact rfl
  · exact inTx_meets (recordTx_meets recorded)

theorem enqueueUnknown_meets (state : UnknownState) :
    Meets (storeContract job) (fun _ _ => True) seen (enqueueUnknown store state) := by
  unfold enqueueUnknown
  split
  · trivial
  split
  · trivial
  · refine meets_askStore trivial trivial fun now => ?_
    exact (inTx_meets (enqueueTx_meets _ _ _ _)).mono fun _ _ _ => trivial

/-- The state a claim returns is the one its statement was answered with. -/
def Claims (later : Seen) (claimed : Option UnknownState) : Prop :=
  ∀ state, claimed = some state → ∃ raw, later.facts.claim = some raw ∧
    raw.intent = state.intent ∧ raw.attempts = state.attempts

omit [CaseTables] in
theorem claims_none : Claims seen none := nofun

theorem claim_meets (key : String) (now : Time) :
    Meets (storeContract job) (fun later result => Claims later result.1) seen
      (claim store key now) := by
  unfold claim
  split
  · exact claims_none
  refine meets_askStore trivial trivial fun answer => ?_
  rcases answer with err | lease
  · exact claims_none
  refine meets_askStore trivial trivial fun answer => ?_
  rcases answer with err | raw
  · cases err <;> exact claims_none
  intro state same
  cases same
  exact ⟨raw, rfl, rfl, rfl⟩

theorem reschedule_meets (state : UnknownState) (next : Time) (reason : String) :
    Meets (storeContract job) (fun later err => err = none →
      later.facts.released = some (state.intent.idempotencyKey, state.attempts)) seen
      (reschedule store state next reason) := by
  unfold reschedule
  split
  · exact fun failed => absurd failed (Option.some_ne_none _)
  refine meets_askStore trivial trivial fun answer => ?_
  rcases answer with err | affected
  · exact fun failed => absurd failed (Option.some_ne_none _)
  show (if affected ≠ 1 then some errLeaseLost else none) = none → _
  by_cases one : affected = 1
  · subst one
    exact fun _ => rfl
  · rw [if_pos one]
    exact nofun

end

/-- The results that leave a state open are those of claims that were given back. -/
abbrev Released (later : Seen) (results : List ReconciliationResult) : Prop :=
  ∀ result ∈ results, result.decision = .awaitingEvidence →
    later.facts.released = some (result.idempotencyKey, result.attempt)

omit [CaseTables] in
theorem released_nil : Released seen [] := fun _ none_ => absurd none_ List.not_mem_nil

/-- A result that leaves the state open comes with the claim given back. -/
theorem reconcileClaimed_meets (told : seen.facts.claim = some raw)
    (intent : raw.intent = claimed.intent) (attempts : raw.attempts = claimed.attempts) :
    Meets (storeContract (.reconcile w key provider))
      (fun later result => Released later result.1.toList) seen
      (reconcileClaimed w store claimed) := by
  unfold reconcileClaimed
  split
  · refine meets_askStore trivial trivial fun now => ?_
    refine Meets.bind (recordDecision_meets store rfl) fun later err _ => ?_
    rcases err with _ | err
    case some => exact released_nil
    intro result member awaiting
    obtain rfl := List.mem_singleton.mp member
    cases awaiting
  rename_i below
  refine meets_askStore trivial ⟨raw, told, intent, ?_⟩ fun (observed, queryErr) => ?_
  · rw [attempts]
    omega
  dsimp only
  split
  · refine meets_askStore trivial trivial fun now => ?_
    refine Meets.bind (reschedule_meets store claimed _ _) fun later err released => ?_
    rcases err with _ | err
    case some => exact released_nil
    refine meets_askStore trivial trivial fun decidedAt => ?_
    intro result member _
    obtain rfl := List.mem_singleton.mp member
    exact released rfl
  refine meets_askStore trivial trivial fun now => ?_
  have terminal := conclude_terminal observed
  refine Meets.bind (recordDecision_meets store terminal) fun later err _ => ?_
  rcases err with _ | err
  case some => exact released_nil
  intro result member awaiting
  obtain rfl := List.mem_singleton.mp member
  have settled : (conclude observed).1 = .awaitingEvidence := awaiting
  rw [settled] at terminal
  cases terminal

theorem reconcile_meets (w : ReconciliationWorker) (key : String) (provider : Option Rail) :
    Meets (storeContract (.reconcile w key provider))
      (fun later result => Released later result.1.toList) seen (reconcile w key provider) := by
  unfold reconcile
  split
  · exact released_nil
  split
  · exact released_nil
  refine meets_askStore trivial trivial fun now => ?_
  refine Meets.bind (claim_meets _ key now) fun later result told => ?_
  obtain ⟨claimed, err⟩ := result
  rcases err with _ | err
  case some => exact released_nil
  cases claimed with
  | none => exact released_nil
  | some claimed =>
    obtain ⟨raw, claim, intent, attempts⟩ := told claimed rfl
    exact reconcileClaimed_meets claim intent attempts

/-! ## Batches -/

theorem recordEach_meets (store : UnknownStore) (wrap : ReconciliationResult → GoError → GoError)
    (known : ∀ result ∈ pending, job.records facts result)
    (done : ∀ result ∈ results, job.records facts result) (same : seen.facts = facts) :
    Meets (storeContract job) (fun later result => later.facts = facts ∧
      ∀ recorded ∈ result.1, job.records facts recorded) seen
      (recordEach store wrap results pending) := by
  induction pending generalizing results seen with
  | nil => exact ⟨same, done⟩
  | cons result pending ih =>
    have mine := known result (by simp)
    rw [recordEach]
    refine Meets.bind (recordDecision_meets store (same ▸ mine)) fun later err kept => ?_
    rcases err with _ | err
    case some => exact ⟨kept.trans same, done⟩
    refine ih (fun other member => known other (by simp [member])) ?_ (kept.trans same)
    intro other member
    rcases mem_concat.mp member with old | rfl
    · exact done other old
    · exact mine

/-- What a batch ends with: results that its answer leads to. -/
abbrev BatchEnds (runID : String) (states : List UnknownState) (later : Seen)
    (results : List ReconciliationResult) : Prop :=
  ∀ result ∈ results, later.facts.Batched runID states result

theorem batchEnds_nil :
    BatchEnds runID states seen [] := fun _ none_ => absurd none_ List.not_mem_nil

theorem failAll_meets (now : Time) (reason after : String) (failed : GoError)
    (told : seen.facts.batch = some answer)
    (awaiting : ∀ state, batchDecision answer runID state = .awaitingEvidence) :
    Meets (storeContract (.reconcileBatch r runID states))
      (fun later result => BatchEnds runID states later result.1) seen
      (failAll store states now reason after failed) := by
  refine Meets.bind (recordEach_meets store _ ?_ (by simp) rfl)
    fun later result ends => ?_
  · intro result member
    obtain ⟨state, listed, rfl⟩ := List.mem_map.mp member
    exact ⟨answer, state, told, listed, (awaiting state).symm⟩
  obtain ⟨results, err⟩ := result
  have known : BatchEnds runID states later results := fun result member => by
    rw [ends.1]
    exact ends.2 result member
  cases err with
  | none | some => exact known

theorem reconcileBatch_meets (r : BatchReconciler) (runID : String) (states : List UnknownState) :
    Meets (storeContract (.reconcileBatch r runID states))
      (fun later result => BatchEnds runID states later result.1) seen
      (reconcileBatch r runID states) := by
  unfold reconcileBatch
  split
  · exact batchEnds_nil
  split
  · exact batchEnds_nil
  split
  · exact batchEnds_nil
  refine meets_askStore trivial trivial fun answer => ?_
  refine meets_askStore trivial trivial fun now => ?_
  rcases answer with err | response
  · exact failAll_meets now _ _ _ rfl fun _ => rfl
  dsimp only
  by_cases other : response.runID ≠ runID
  · rw [if_pos other]
    exact failAll_meets now _ _ _ rfl fun _ => if_pos other
  rw [if_neg other]
  refine Meets.bind (recordEach_meets _ _ ?_ (by simp) rfl)
    fun later result ends => ?_
  · intro result member
    obtain ⟨state, listed, rfl⟩ := List.mem_map.mp member
    exact ⟨.ok response, state, rfl, listed, (if_neg other).symm⟩
  obtain ⟨results, err⟩ := result
  have known : BatchEnds runID states later results := fun result member => by
    rw [ends.1]
    exact ends.2 result member
  cases err with
  | none | some => exact known

/-! ## Every call -/

def StoreJob.ends (seen : Seen) (outcome : StoreOutcome) : StoreJob → Prop
  | reconcile _ _ _ => ∀ results err, outcome = .reconciled results err → Released seen results
  | reconcileBatch _ runID states =>
    ∀ results err, outcome = .reconciled results err → BatchEnds runID states seen results
  | _ => ∀ results err, outcome ≠ .reconciled results err

/-- Every call keeps the contract of its job. -/
theorem job_meets (job : StoreJob) :
    Meets (storeContract job) (fun seen outcome => job.ends seen outcome) {} job.program := by
  cases job with
  | enqueueUnknown store state =>
    exact (enqueueUnknown_meets store state).bind fun _ _ _ => nofun
  | claim store key now => exact (claim_meets store key now).bind fun _ _ _ => nofun
  | reschedule store state next reason =>
    exact (reschedule_meets store state next reason).bind fun _ _ _ => nofun
  | recordDecision store result =>
    have own : (StoreJob.recordDecision store result).records ({} : Seen).facts result := rfl
    exact (recordDecision_meets store own).bind fun _ _ _ => nofun
  | reconcile worker key provider =>
    refine (reconcile_meets worker key provider).bind fun later result released => ?_
    rintro results err ⟨⟩
    exact released
  | reconcileBatch reconciler runID states =>
    refine (reconcileBatch_meets reconciler runID states).bind fun later result known => ?_
    rintro results err ⟨⟩
    exact known

theorem standing_of_reaches (reached : reconcilers.Reaches emptyStore config)
    (present : thread ∈ config.threads) :
    Allowed (storeContract thread.label) {} thread.past ∧
      Meets (storeContract thread.label) (fun seen outcome => thread.label.ends seen outcome)
        (seenIn thread.past) thread.rest := by
  obtain ⟨shared, program, started, ran⟩ := reached.run_of_thread rfl present
  obtain rfl : thread.label.program = program := Option.some.inj started
  exact Meets.run ran (job_meets thread.label) (relied_of_true thread.past)

end

end UmojaFlowOS.Multirail
