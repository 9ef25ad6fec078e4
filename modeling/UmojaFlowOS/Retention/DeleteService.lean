import Mathlib.Tactic.SplitIfs
import Mathlib.Tactic.Tauto
import UmojaFlowOS.Interaction.Steps

/-!
# The delete service and its circuit breaker

`DatabasePoolCircuitBreaker` and the handler of `/v1/worker/delete` (`worker_service.py`), with
`DeleteWorker.execute` (`delete_worker.py`). Requests run concurrently: each touches the breaker
when it is let in and when its result is recorded, and any others do so in between.
-/

namespace UmojaFlowOS.Retention

open Interaction

inductive CircuitState where
  | closed
  | open
  | halfOpen
  deriving DecidableEq

/-- `DatabasePoolCircuitBreaker` (`worker_service.py:36-47`). -/
structure DatabasePoolCircuitBreaker where
  failureThreshold : Nat
  resetPeriod : Int
  consecutiveFailures : Nat := 0
  state : CircuitState := .closed
  openUntil : Option Int := none

namespace DatabasePoolCircuitBreaker

variable (b : DatabasePoolCircuitBreaker)

/-- `allow` (`worker_service.py:53-61`). -/
def allow (now : Int) : Bool × DatabasePoolCircuitBreaker :=
  if b.state = .closed then (true, b)
  else if b.state = .open ∧ b.openUntil.any (· ≤ now) then (true, { b with state := .halfOpen })
  else (false, b)

/-- `record_pool_saturation` (`worker_service.py:63-70`). -/
def recordPoolSaturation (now : Int) : DatabasePoolCircuitBreaker :=
  let failures := b.consecutiveFailures + 1
  if b.state ≠ .open ∧ (b.state = .halfOpen ∨ b.failureThreshold ≤ failures) then
    { b with
      consecutiveFailures := failures, state := .open, openUntil := some (now + b.resetPeriod) }
  else { b with consecutiveFailures := failures }

/-- `record_success` (`worker_service.py:72-76`). -/
def recordSuccess : DatabasePoolCircuitBreaker :=
  { b with consecutiveFailures := 0, state := .closed, openUntil := none }

end DatabasePoolCircuitBreaker

structure IndexIdentity where
  index : String
  indexUuid : String
  indexVersion : String
  digest : String
  deriving DecidableEq

/-- The fields of `DeleteRequest` that `execute` compares. -/
abbrev DeleteRequest := IndexIdentity

inductive ClaimAnswer where
  | answered (claimed : Bool)
  | poolError
  | raised

inductive IdentityAnswer where
  | answered (current : Option IndexIdentity)
  | authenticationError
  | authorizationError
  | manifestSignatureError
  | raised

inductive DeleteAnswer where
  | answered (deleted : Bool)
  | authenticationError
  | authorizationError
  | raised

/-- What one request is told; a verification without an answer is one that raises. -/
structure Answers where
  verified : Option Bool := some true
  claim : ClaimAnswer := .answered true
  identity : IdentityAnswer := .answered none
  delete : DeleteAnswer := .answered true

/-- The texts `execute` returns. -/
inductive Result where
  | deniedInvalidOrExpiredToken
  | databaseConnectionPoolSaturated
  | databaseClaimError
  | deniedReplayOrConsumed
  | opensearchAuthenticationFailure
  | opensearchAuthorizationFailure
  | deniedManifestSignatureInvalid
  | alreadyDeleted
  | deniedScopeChanged
  | deleteExecutionError
  | deleted

/-- `execute` (`delete_worker.py:150-207`); without a result an exception leaves it. -/
def execute (request : DeleteRequest) (answers : Answers) : Option Result :=
  match answers.verified, answers.claim with
  | none, _ => none
  | some false, _ => some .deniedInvalidOrExpiredToken
  | some true, .poolError => some .databaseConnectionPoolSaturated
  | some true, .raised => some .databaseClaimError
  | some true, .answered false => some .deniedReplayOrConsumed
  | some true, .answered true =>
    match answers.identity with
    | .authenticationError => some .opensearchAuthenticationFailure
    | .authorizationError => some .opensearchAuthorizationFailure
    | .manifestSignatureError => some .deniedManifestSignatureInvalid
    | .raised => none
    | .answered none => some .alreadyDeleted
    | .answered (some current) =>
      if current ≠ request then some .deniedScopeChanged
      else match answers.delete with
        | .authenticationError => some .opensearchAuthenticationFailure
        | .authorizationError => some .opensearchAuthorizationFailure
        | .raised => some .deleteExecutionError
        | .answered deleted => some (if deleted then .deleted else .alreadyDeleted)

/-- The breaker and the requests it has let in, each with its `started`. -/
structure Service where
  breaker : DatabasePoolCircuitBreaker
  inProgress : List (Int × DeleteRequest) := []

/-- A request with the right bearer token arrives; a request in progress ends. -/
inductive Event where
  | arrive (started : Int) (request : DeleteRequest)
  | finish (i : Nat) (answers : Answers)

/-- What is recorded of a request (`worker_service.py:222-225`). -/
def record (b : DatabasePoolCircuitBreaker) (started : Int) :
    Option Result → DatabasePoolCircuitBreaker
  | none | some .databaseClaimError => b
  | some .databaseConnectionPoolSaturated => b.recordPoolSaturation started
  | some _ => b.recordSuccess

/-- `delete` (`worker_service.py:196-235`). -/
def Service.next (s : Service) : Event → Option Service
  | .arrive started request =>
    match s.breaker.allow started with
    | (true, breaker) => some ⟨breaker, s.inProgress ++ [(started, request)]⟩
    -- The result is `database_circuit_open`, of which nothing is recorded.
    | (false, breaker) => some ⟨breaker, s.inProgress⟩
  | .finish i answers => s.inProgress[i]?.map fun (started, request) =>
    ⟨record s.breaker started (execute request answers), s.inProgress.eraseIdx i⟩

/-! ## The next request is allowed -/

/-- The last request in progress does not leave a half-open breaker without a record. -/
def Recorded (s : Service) : Event → Prop
  | .arrive _ _ => True
  | .finish i answers => s.breaker.state = .halfOpen → s.inProgress.length = 1 →
      ∀ pending ∈ s.inProgress[i]?,
        execute pending.2 answers ≠ none ∧ execute pending.2 answers ≠ some .databaseClaimError

/-- Once no request is in progress and the reset period has passed, the next one is allowed. -/
def Recovers (s : Service) : Prop :=
  s.inProgress = [] → ∀ now, (∀ reset ∈ s.breaker.openUntil, reset ≤ now) →
    (s.breaker.allow now).1 = true

/-- A half-open breaker waits for a request, and an open one for a time. -/
structure Awaits (s : Service) : Prop where
  halfOpen : s.breaker.state = .halfOpen → s.inProgress ≠ []
  open_ : s.breaker.state = .open → s.breaker.openUntil ≠ none

theorem Awaits.recovers (awaits : Awaits s) : Recovers s := by
  intro idle now passed
  unfold DatabasePoolCircuitBreaker.allow
  cases state : s.breaker.state with
  | closed => rfl
  | halfOpen => exact absurd idle (awaits.halfOpen state)
  | «open» =>
    obtain ⟨reset, known⟩ := Option.ne_none_iff_exists'.mp (awaits.open_ state)
    simp [known, passed reset known]

theorem record_cases (b : DatabasePoolCircuitBreaker) (started : Int) (result : Option Result) :
    record b started result = b ∧ (result = none ∨ result = some .databaseClaimError) ∨
      record b started result = b.recordPoolSaturation started ∨
      record b started result = b.recordSuccess := by
  unfold record
  split <;> simp

theorem Awaits.arrive (awaits : Awaits s) (taken : s.next (.arrive started request) = some later) :
    Awaits later := by
  unfold Service.next DatabasePoolCircuitBreaker.allow at taken
  by_cases closed : s.breaker.state = .closed
  · simp only [if_pos closed, Option.some.injEq] at taken
    subst taken
    exact ⟨fun _ => by simp, awaits.open_⟩
  by_cases passed : s.breaker.state = .open ∧ s.breaker.openUntil.any (· ≤ started)
  · simp only [if_neg closed, if_pos passed, Option.some.injEq] at taken
    subst taken
    exact ⟨fun _ => by simp, nofun⟩
  simp only [if_neg closed, if_neg passed, Option.some.injEq] at taken
  subst taken
  exact awaits

theorem Awaits.finish (awaits : Awaits s) (recorded : Recorded s (.finish i answers))
    (taken : s.next (.finish i answers) = some later) : Awaits later := by
  obtain ⟨⟨started, request⟩, pending, rfl⟩ := Option.map_eq_some_iff.mp taken
  dsimp only
  rcases record_cases s.breaker started (execute request answers) with ⟨same, lost⟩ | same | same <;>
    rw [same]
  · refine ⟨fun halfOpen emptied => ?_, awaits.open_⟩
    -- Nothing was recorded, so another request must still be in progress.
    have bound := (List.getElem?_eq_some_iff.mp pending).1
    have alone : s.inProgress.length = 1 := by
      have shorter := List.length_eraseIdx_of_lt bound
      rw [show s.inProgress.eraseIdx i = [] from emptied, List.length_nil] at shorter
      omega
    obtain ⟨returned, claimed⟩ := recorded halfOpen alone _ pending
    exact lost.elim returned claimed
  · unfold DatabasePoolCircuitBreaker.recordPoolSaturation
    dsimp only
    split
    · exact ⟨nofun, fun _ => nofun⟩
    rename_i stays
    refine ⟨fun halfOpen => absurd ⟨?_, .inl halfOpen⟩ stays, awaits.open_⟩
    dsimp only at halfOpen
    simp [halfOpen]
  · exact ⟨nofun, nofun⟩

theorem Awaits.next (awaits : Awaits s) (recorded : Recorded s event)
    (taken : s.next event = some later) : Awaits later := by
  cases event with
  | arrive started request => exact awaits.arrive taken
  | finish i answers => exact awaits.finish recorded taken

abbrev fresh (threshold : Nat) (reset : Int) : Service := ⟨⟨threshold, reset, 0, .closed, none⟩, []⟩

/-- In every run in which the last request in progress never leaves a half-open breaker without
a record, the breaker recovers. -/
theorem next_request_is_allowed {threshold : Nat} {reset : Int} {s : Service}
    (reached : Stepped Service.next Recorded (fresh threshold reset) s) : Recovers s := by
  have starts : Awaits (fresh threshold reset) := ⟨nofun, nofun⟩
  exact (reached.invariant starts Awaits.next).recovers

def sampleRequest : DeleteRequest := ⟨"audit-2020", "u1", "3", "d1"⟩

/-- The breaker has opened once; after its period it recovers. -/
theorem saturated_service_recovers : Recovers ⟨⟨1, 30, 1, .open, some 30⟩, []⟩ := by
  have arrived : Stepped Service.next Recorded (fresh 1 30)
      ⟨⟨1, 30, 0, .closed, none⟩, [(0, sampleRequest)]⟩ :=
    .step (Event.arrive 0 sampleRequest) .refl trivial rfl
  exact next_request_is_allowed (.step (Event.finish 0 { claim := .poolError }) arrived nofun rfl)

/-- A saturated pool, and a probe after the reset period. -/
theorem reaches_probe : Stepped Service.next (fun _ _ => True) (fresh 1 30)
    ⟨⟨1, 30, 1, .halfOpen, some 30⟩, [(30, sampleRequest)]⟩ :=
  Stepped.refl.replay [.arrive 0 sampleRequest, .finish 0 { claim := .poolError },
    .arrive 30 sampleRequest] rfl

/-- A probe that ends in `database_claim_error` leaves the breaker half-open for good. -/
theorem lost_probe_blocks_service : ∃ s,
    Stepped Service.next (fun _ _ => True) (fresh 1 30) s ∧ s.inProgress = [] ∧
      ∀ now, s.breaker.allow now = (false, s.breaker) :=
  ⟨⟨⟨1, 30, 1, .halfOpen, some 30⟩, []⟩, reaches_probe.step (.finish 0 { claim := .raised }) trivial rfl,
    rfl, fun _ => rfl⟩

/-! ## What closes the breaker -/

/-- The breaker closes, or its count starts again. -/
def Resets (b later : DatabasePoolCircuitBreaker) : Prop :=
  b.state ≠ .closed ∧ later.state = .closed ∨
    b.consecutiveFailures ≠ 0 ∧ later.consecutiveFailures = 0

/-- The database has answered the claim of the request. -/
def Claims : Event → Prop
  | .arrive _ _ => False
  | .finish _ answers => answers.verified = some true ∧ ∃ claimed, answers.claim = .answered claimed

/-- A token is refused only while there is nothing to reset. -/
def RefusedAtRest (s : Service) : Event → Prop
  | .arrive _ _ => True
  | .finish _ answers => answers.verified = some false →
      s.breaker.state = .closed ∧ s.breaker.consecutiveFailures = 0

theorem not_resets_of_allow : ¬ Resets b (b.allow now).2 := by
  unfold DatabasePoolCircuitBreaker.allow
  split_ifs <;> simp +contextual [Resets]

theorem not_resets_of_saturation : ¬ Resets b (b.recordPoolSaturation now) := by
  unfold DatabasePoolCircuitBreaker.recordPoolSaturation
  dsimp only
  split_ifs <;> simp +contextual [Resets]

theorem not_resets_self : ¬ Resets b b := by
  simp +contextual [Resets]

/-- For every state of the service and every event: the breaker closes or its count is reset
only after a claim that was carried out, iff no token is refused while there is something to
reset. -/
theorem resets_only_after_claim_iff {s later : Service} {event : Event}
    (taken : s.next event = some later) :
    (Resets s.breaker later.breaker → Claims event) ↔ RefusedAtRest s event := by
  cases event with
  | arrive started request =>
    have same : later.breaker = (s.breaker.allow started).2 := by
      dsimp only [Service.next] at taken
      split at taken <;> rename_i answered <;> cases taken <;> rw [answered]
    rw [same]
    exact ⟨fun _ => trivial, fun _ resets => (not_resets_of_allow resets).elim⟩
  | finish i answers =>
    obtain ⟨⟨started, request⟩, -, rfl⟩ := Option.map_eq_some_iff.mp taken
    obtain ⟨verified, claim, identity, delete⟩ := answers
    dsimp only [Claims, RefusedAtRest]
    rcases verified with _ | _ | _
    · simp [execute, record, not_resets_self]
    · simp only [execute, record, DatabasePoolCircuitBreaker.recordSuccess, Resets, and_true,
        Option.some.injEq, Bool.false_eq_true, false_and, imp_false, forall_const]
      tauto
    cases claim with
    | poolError => simp [execute, record, not_resets_of_saturation]
    | raised => simp [execute, record, not_resets_self]
    | answered claimed => simp

theorem refused_token_at_rest_resets_nothing :
    ∃ later, Service.next ⟨⟨2, 30, 0, .closed, none⟩, [(0, sampleRequest)]⟩
        (.finish 0 { verified := some false }) = some later ∧
      (Resets ⟨2, 30, 0, .closed, none⟩ later.breaker →
        Claims (.finish 0 { verified := some false })) := by
  have taken : Service.next ⟨⟨2, 30, 0, .closed, none⟩, [(0, sampleRequest)]⟩
      (.finish 0 { verified := some false }) = some ⟨⟨2, 30, 0, .closed, none⟩, []⟩ := rfl
  exact ⟨_, taken, (resets_only_after_claim_iff taken).mpr fun _ => ⟨rfl, rfl⟩⟩

/-- A request with a refused token closes a half-open breaker. -/
theorem refused_token_closes_breaker : ∃ s later,
    Stepped Service.next (fun _ _ => True) (fresh 1 30) s ∧ s.breaker.state = .halfOpen ∧
      s.next (.finish 0 { verified := some false }) = some later ∧
      later.breaker.state = .closed :=
  ⟨_, _, reaches_probe, rfl, rfl, rfl⟩

/-- A closed breaker has counted too few saturations to open; any other has a time for a probe. -/
structure Counted (s : Service) : Prop where
  positive : 0 < s.breaker.failureThreshold
  below : s.breaker.state = .closed → s.breaker.consecutiveFailures < s.breaker.failureThreshold
  timed : s.breaker.openUntil = none ↔ s.breaker.state = .closed

theorem Counted.next (counted : Counted s) (taken : s.next event = some later) : Counted later := by
  obtain ⟨positive, below, timed⟩ := counted
  cases event with
  | arrive started request =>
    simp only [Service.next, DatabasePoolCircuitBreaker.allow] at taken
    constructor <;> grind
  | finish i answers =>
    obtain ⟨⟨started, request⟩, -, rfl⟩ := Option.map_eq_some_iff.mp taken
    rcases record_cases s.breaker started (execute request answers) with ⟨same, -⟩ | same | same <;>
      simp only [same]
    · exact ⟨positive, below, timed⟩
    · unfold DatabasePoolCircuitBreaker.recordPoolSaturation
      constructor <;> grind
    · exact ⟨positive, fun _ => positive, by simp [DatabasePoolCircuitBreaker.recordSuccess]⟩

/-- In every run, in any order of events. -/
theorem breaker_counts_below_threshold {threshold : Nat} {reset : Int} {s : Service}
    (positive : 0 < threshold)
    (reached : Stepped Service.next (fun _ _ => True) (fresh threshold reset) s) : Counted s :=
  reached.invariant ⟨positive, fun _ => positive, by simp⟩ fun counted _ taken => counted.next taken

/-- A breaker with a probe under way. -/
theorem probed_breaker_is_counted : Counted ⟨⟨1, 30, 1, .halfOpen, some 30⟩, [(30, sampleRequest)]⟩ :=
  breaker_counts_below_threshold (by decide) reaches_probe

end UmojaFlowOS.Retention
