import UmojaFlowOS.Attestation.Proofs.QueueLeases

/-!
# The attestation queue is fenced

No two callers hold one item, complete items stay, and a caller whose lease was taken over
changes nothing.
-/

namespace UmojaFlowOS.Attestation

open Interaction Relational

/-- The caller `i` holds the lease: it was given it, no one has given it up, and it has not
expired. -/
def Holds (config : QueueConfig) (i : Nat) (lease : Lease) : Prop :=
  Claimed config i lease ∧ ¬ GivenUp config lease.key ∧ config.shared.clock ≤ lease.leaseUntil

/-- What one step of the whole system does to a row: nothing, or what its caller does. -/
inductive StepChange (config : QueueConfig) (action : Action QueueJob QueueChoice Disconnect)
    (row new : ItemRow) : Prop
  | kept (same : new = row)
  | by_ (taken : action = .exec i choice)
      (caller : config.threads[i]? = some ⟨label, past, .call request next⟩)
      (change : RowChange config.shared (queueSeenIn past).phase request row new)

/-- No row is held under the lease. -/
def Stale (config : QueueConfig) (lease : LeaseKey) : Prop :=
  ∀ token, castUUID lease.token = some token → ∀ row ∈ config.shared.rows,
    row.heldBy lease.id lease.attempts token = false

/-- What holds of every state of the queue. -/
structure QueueFenced (config : QueueConfig) : Prop where
  /-- Two callers that hold leases on one item are one caller with one lease. -/
  exclusive : ∀ i j lease other, Holds config i lease → Holds config j other →
    lease.key.id = other.key.id → i = j ∧ lease = other
  /-- A complete item stays as it is. -/
  complete : ∀ later, attestors.Reaches config later → ∀ row ∈ config.shared.rows,
    row.state = .complete → row ∈ later.shared.rows
  /-- In a step a row is kept, or its lease is given up by a caller that presents it, or it
  is claimed with one attempt more when it is due, which a running row is once its lease
  has expired. -/
  rows : ∀ action later, attestors.next config action = some later →
    ∀ row ∈ config.shared.rows, ∃ new ∈ later.shared.rows, StepChange config action row new
  /-- A lease that is claimed has more attempts than every lease on the item before. -/
  increases : ∀ action later, attestors.next config action = some later →
    ∀ i lease, Claimed later i lease → ¬ Claimed config i lease →
      ∀ j other, Claimed config j other → other.key.id = lease.key.id →
        other.key.attempts < lease.key.attempts
  /-- The statements of a holder whose lease is stale change nothing, and tell it so. -/
  stale : ∀ j lease, Claimed config j lease → Stale config lease.key → ∀ i,
    (∀ next reason, config.shared.exec i (.markUnknown lease.key next reason) .proceeds =
      some (.ok 0, config.shared)) ∧
    ∀ attestationID, config.shared.exec i (.markComplete lease.key attestationID) .proceeds =
      some (.ok 0, config.shared)
  /-- Enqueueing a key again changes nothing, whatever the answer, and is answered with no
  row if the `CHECK`s take the item. -/
  enqueued : ∀ row ∈ config.shared.rows, ∀ item : QueueItem,
    item.idempotencyKey = row.idempotencyKey → ∀ i,
      (∀ choice answer after, config.shared.exec i (.insertItem item) choice =
        some (answer, after) → after = config.shared) ∧
      ∀ id now, (ItemRow.new id now item).valid = true →
        config.shared.exec i (.insertItem item) (.inserts id now) = some (.ok 0, config.shared)

section
variable {config : QueueConfig} {action : Action QueueJob QueueChoice Disconnect}

variable {lease : Lease}

theorem Leased.row_of_holds (leased : Leased config) (holds : Holds config i lease) :
    ∃ row ∈ config.shared.rows, row.id = lease.key.id ∧ row.attempts = lease.key.attempts := by
  obtain ⟨claimed, kept, unexpired⟩ := holds
  obtain ⟨token, cast, row, present, id, -, status⟩ := leased.tracked i lease claimed
  refine ⟨row, present, id, ?_⟩
  rcases status with ⟨held, -⟩ | given | expired
  · exact (heldBy_iff.mp held).2.2.1
  · exact absurd given kept
  · exact absurd expired (not_lt.mpr unexpired)

/-- Whoever holds an item holds it alone. -/
theorem Leased.exclusive (leased : Leased config) (first : Holds config i lease)
    (second : Holds config j other) (id : lease.key.id = other.key.id) : i = j ∧ lease = other := by
  obtain ⟨row, present, own, attempts⟩ := leased.row_of_holds first
  obtain ⟨row', present', own', attempts'⟩ := leased.row_of_holds second
  have same : row = row' := List.inj_on_of_nodup_map leased.ids present present'
    (own.trans (id.trans own'.symm))
  refine leased.unique i j lease other first.1 second.1 id ?_
  rw [← attempts, ← attempts', same]

theorem Leased.stepChange (leased : Leased config) (reached : attestors.Reaches emptyQueue config)
    (taken : attestors.next config action = some later) (present : row ∈ config.shared.rows) :
    ∃ new ∈ later.shared.rows, StepChange config action row new := by
  cases action with
  | spawn label =>
    obtain ⟨program, -, rfl⟩ := Machine.next_spawn taken
    exact ⟨row, present, .kept rfl⟩
  | exec i choice =>
    obtain ⟨label, past, request, next, answer, shared, active, done, rfl⟩ := Machine.next_exec taken
    have permitted := (caller_of_reaches reached (List.mem_of_getElem? active)).1
    obtain ⟨new, there, change⟩ := (queueEffect_of_exec done).rowChange leased.ids
      (fun session found => leased.fits i _ session active found) permitted present
    exact ⟨new, there, .by_ rfl active change⟩
  | env gone =>
    obtain ⟨shared, changed, rfl⟩ := Machine.next_env taken
    cases changed
    exact ⟨row, present, .kept rfl⟩

theorem StepChange.of_complete (change : StepChange config action row new)
    (complete : row.state = .complete) : new = row := by
  cases change with
  | kept same => exact same
  | by_ taken caller change =>
    cases change with
    | kept same => exact same
    | claimed written commits due read id next cast same =>
      simp [ItemRow.due, complete] at due
    | marked marks gives cast held same =>
      rw [(heldBy_iff.mp held).2.1] at complete
      cases complete

/-- A complete item stays as it is in every further run. -/
theorem complete_of_reaches (reached : attestors.Reaches emptyQueue config)
    (further : attestors.Reaches config later) (present : row ∈ config.shared.rows)
    (complete : row.state = .complete) : row ∈ later.shared.rows := by
  induction further with
  | refl => exact present
  | tail action before taken ih =>
    have between := reached.trans before
    obtain ⟨new, there, change⟩ := (leased_of_reaches between).stepChange between taken ih
    rw [change.of_complete complete] at there
    exact there

/-- A later lease of an item has more attempts than an earlier one. -/
theorem Leased.increases (leased : Leased config)
    (taken : attestors.next config action = some later) (claimed : Claimed later i lease)
    (new : ¬ Claimed config i lease) (before : Claimed config j other)
    (same : other.key.id = lease.key.id) : other.key.attempts < lease.key.attempts := by
  rcases Machine.next_cases taken with ⟨label, program, -, rfl⟩ |
    ⟨k, label, past, request, next, choice, answer, shared, active, done, rfl⟩ | ⟨gone, shared, changed, rfl⟩
  · obtain ⟨thread, found, listed⟩ := claimed
    rcases getElem?_concat_cases found with ⟨-, rfl⟩ | old
    · cases listed
    · exact absurd ⟨thread, old, listed⟩ new
  · rcases claimed.cases active with old | ⟨rfl, claims⟩
    · exact absurd old new
    · exact leased.attempts_lt active (queueEffect_of_exec done) claims before same
  · exact absurd claimed new

/-- A stale lease marks no row. -/
theorem mark_of_stale {lease : LeaseKey} (cast : castUUID lease.token = some token)
    (stale : Stale config lease) (change : ItemRow → ItemRow) :
    config.shared.mark lease change = some (.ok 0, config.shared) := by
  have none_ := stale token cast
  have any : config.shared.rows.any (ItemRow.heldBy lease.id lease.attempts token) = false := by
    rw [List.any_eq_false]
    intro row present
    rw [none_ row present]
    exact Bool.false_ne_true
  have count : config.shared.rows.countP (ItemRow.heldBy lease.id lease.attempts token) = 0 := by
    rw [List.countP_eq_zero]
    intro row present
    rw [none_ row present]
    exact Bool.false_ne_true
  unfold QueueState.mark
  rw [cast]
  dsimp only
  rw [any, count, updateWhere_of_none none_]
  rfl

theorem Leased.stale (leased : Leased config)
    (claimed : Claimed config j lease) (stale : Stale config lease.key) (i : Nat) :
    (∀ next reason, config.shared.exec i (.markUnknown lease.key next reason) .proceeds =
      some (.ok 0, config.shared)) ∧
    ∀ attestationID, config.shared.exec i (.markComplete lease.key attestationID) .proceeds =
      some (.ok 0, config.shared) := by
  obtain ⟨token, cast, -⟩ := leased.tracked j lease claimed
  refine ⟨fun next reason => mark_of_stale cast stale _, fun attestationID => ?_⟩
  have single : config.shared.duplicates lease.key attestationID = false := by
    rw [QueueState.duplicates, cast, Option.any_some]
    have any : config.shared.rows.any
        (ItemRow.heldBy lease.key.id lease.key.attempts token) = false := by
      rw [List.any_eq_false]
      intro row present
      rw [stale token cast row present]
      exact Bool.false_ne_true
    rw [any, Bool.false_and]
  show config.shared.markComplete lease.key attestationID = _
  rw [QueueState.markComplete, single]
  exact mark_of_stale cast stale _

/-- The insertion of a key that exists leaves the table as it is. -/
theorem insertItem_again {s after : QueueState} {answer : Except GoError Nat}
    (any : s.rows.any (·.idempotencyKey = item.idempotencyKey) = true)
    (done : s.exec i (.insertItem item) choice = some (answer, after)) : after = s := by
  have unchanged {id now affected left}
      (executed : s.insertItem item id now = some (affected, left)) : left = s := by
    rw [QueueState.insertItem, if_pos any] at executed
    split at executed <;> cases executed
    rfl
  cases choice <;> try cases done
  case inserts | insertsUnseen =>
    obtain ⟨⟨affected, left⟩, executed, same⟩ := Option.map_eq_some_iff.mp done
    cases same
    exact unchanged executed
  case fails => rfl

/-- Every state of the queue under any number of callers and workers, with crashes, expired
leases and lost acknowledgements, is fenced. -/
theorem queue_is_fenced (reached : attestors.Reaches emptyQueue config) :
    QueueFenced config ∧ ∀ q item next reason, q.db = true →
      Run (markUnknown q item next reason) [⟨.markUnknown item.lease next reason, .ok 0⟩]
        (.ret (some errQueueLeaseLost)) ∧
      ∀ attestationID, attestationID ≠ "" →
        Run (markComplete q item attestationID) [⟨.markComplete item.lease attestationID, .ok 0⟩]
          (.ret (some errQueueLeaseLost)) := by
  have leased := leased_of_reaches reached
  refine ⟨⟨?_, ?_, ?_, ?_, ?_, ?_⟩, ?_⟩
  · exact fun i j lease other first second id => leased.exclusive first second id
  · exact fun later further row present complete => complete_of_reaches reached further present complete
  · exact fun action later taken row present => leased.stepChange reached taken present
  · exact fun action later taken i lease claimed new j other before same =>
      leased.increases taken claimed new before same
  · exact fun j lease claimed stale i => leased.stale claimed stale i
  · intro row present item same i
    have any : config.shared.rows.any (·.idempotencyKey = item.idempotencyKey) = true :=
      List.any_eq_true.mpr ⟨row, present, by simpa using same.symm⟩
    exact ⟨fun choice answer after done => insertItem_again any done,
      fun id now valid => by
        show (config.shared.insertItem item id now).map _ = _
        rw [QueueState.insertItem, if_neg (by simp [valid]), if_pos any]
        rfl⟩
  intro q item next reason set
  have valid : q.validate = none := by
    rw [PostgreSQLQueue.validate, if_neg (not_not.mpr set)]
  refine ⟨?_, fun attestationID given => ?_⟩
  · rw [markUnknown, valid]
    exact .step _ _ _ (.stop _)
  rw [markComplete, valid]
  rw [if_neg given]
  exact .step _ _ _ (.stop _)

end

/-! ## A lease that is taken over -/

def evidenceItem : QueueItem where
  idempotencyKey := "key-1"
  releaseSHA := "aaaaaaaaaaaaaaaaaaaaaaaaaaaaaaaaaaaaaaaa"
  evidenceID := "E-01"
  evidenceURI := "file:///evidence/E-01"
  payloadDigest := evidenceDigest [1]
  endorsementScope := "release"

def itemID : String := "00000000-0000-4000-8000-000000000001"

/-- The item is enqueued by caller 0. -/
def enqueueing : List (Action QueueJob QueueChoice Disconnect) :=
  [.spawn (.enqueue {} evidenceItem), .exec 0 (.inserts itemID 1)]

def claiming (i : Nat) (time : Time) (byte : UInt8) :
    List (Action QueueJob QueueChoice Disconnect) :=
  [.exec i (.reads time), .exec i .proceeds, .exec i (.picks itemID),
    .exec i (.random ⟨List.replicate 16 byte, false⟩), .exec i .proceeds, .exec i .proceeds,
    .exec i .proceeds]

/-- Caller 1 claims the item; a minute later caller 2 does. -/
def takeover : List (Action QueueJob QueueChoice Disconnect) :=
  enqueueing ++ .spawn (.claim {}) :: claiming 1 2 1 ++
    .spawn (.claim {}) :: claiming 2 60000000002 2

/-- Both claims succeed, the second with one attempt more, and the queue is fenced. -/
theorem takeover_is_fenced :
    ∃ config, attestors.Reaches emptyQueue config ∧
      config.shared.rows.map (fun row => (row.state, row.attempts)) = [(.running, 2)] ∧
      config.threads.map (fun thread => (queueSeenIn thread.past).claimed.map
        fun lease => lease.key.attempts) = [[], [1], [2]] ∧ QueueFenced config := by
  have found : ∃ config, attestors.Reaches emptyQueue config ∧
      config.shared.rows.map (fun row => (row.state, row.attempts)) = [(.running, 2)] ∧
      config.threads.map (fun thread => (queueSeenIn thread.past).claimed.map
        fun lease => lease.key.attempts) = [[], [1], [2]] :=
    Machine.exists_of_replay takeover (by decide +kernel)
  obtain ⟨config, reached, rows, claimed⟩ := found
  exact ⟨config, reached, rows, claimed, (queue_is_fenced reached).1⟩

end UmojaFlowOS.Attestation
