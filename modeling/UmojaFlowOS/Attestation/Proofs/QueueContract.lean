import UmojaFlowOS.Attestation.QueueStore

/-!
# What the callers of the attestation queue ask

A contract that every caller keeps, whatever it is answered: the order of the statements
in the transaction of `Claim`, and that Fabric is only ever submitted to.
-/

namespace UmojaFlowOS.Attestation

open Interaction

/-! ## What a caller has seen -/

/-- How far the transaction of a caller is, by the answers it was given. -/
inductive ClaimPhase where
  | outside
  | begun
  | selected (item : QueueItem) (now : Time)
  | written (item : QueueItem) (now : Time) (lease : LeaseKey) (leaseUntil : Time)

def ClaimPhase.after (phase : ClaimPhase) : Event queueCalls → ClaimPhase
  | ⟨.beginTx, none⟩ => begun
  | ⟨.beginTx, some _⟩ => outside
  | ⟨.selectDue now, .ok item⟩ => selected item now
  | ⟨.selectDue _, .error _⟩ => outside
  | ⟨.claimItem lease leaseUntil, none⟩ =>
    match phase with
    | selected item now => written item now lease leaseUntil
    | _ => outside
  | ⟨.claimItem _ _, some _⟩ => outside
  | ⟨.commit, _⟩ => outside
  | ⟨.rollback, _⟩ => outside
  | _ => phase

structure Lease where
  key : LeaseKey
  leaseUntil : Time

/-- The lease that a transaction is about to claim. -/
def ClaimPhase.leases : ClaimPhase → List Lease
  | written _ _ lease leaseUntil => [⟨lease, leaseUntil⟩]
  | _ => []

/-- What an acknowledged commit has claimed. -/
def ClaimPhase.claims (phase : ClaimPhase) : Event queueCalls → List Lease
  | ⟨.commit, none⟩ => phase.leases
  | _ => []

/-- The lease that a call gives up. -/
def QueueCall.marks : QueueCall → Option LeaseKey
  | markUnknown lease _ _ => some lease
  | markComplete lease _ => some lease
  | _ => none

/-- What a caller knows of its transaction, of its leases and of the item it has selected. -/
structure QueueSeen where
  phase : ClaimPhase := .outside
  time : Option Time := none
  claimed : List Lease := []
  marked : List LeaseKey := []
  item : Option QueueItem := none
  submitted : Bool := false

def timeAfter (time : Option Time) : Event queueCalls → Option Time
  | ⟨.now, now⟩ => some now
  | _ => time

def itemAfter (item : Option QueueItem) : Event queueCalls → Option QueueItem
  | ⟨.selectDue _, .ok selected⟩ => some selected
  | _ => item

def QueueCall.submits : QueueCall → Bool
  | submitAttestation _ _ => true
  | _ => false

def QueueSeen.after (seen : QueueSeen) (event : Event queueCalls) : QueueSeen where
  phase := seen.phase.after event
  time := timeAfter seen.time event
  claimed := seen.phase.claims event ++ seen.claimed
  marked := event.call.marks.toList ++ seen.marked
  item := itemAfter seen.item event
  submitted := event.call.submits || seen.submitted

def queueSeenIn (past : List (Event queueCalls)) : QueueSeen := past.foldl QueueSeen.after {}

theorem queueSeenIn_concat (past : List (Event queueCalls)) (event : Event queueCalls) :
    queueSeenIn (past ++ [event]) = (queueSeenIn past).after event := by
  rw [queueSeenIn, List.foldl_append]
  rfl

/-! ## The contract -/

def QueueSeen.permits (seen : QueueSeen) : QueueCall → Prop
  | .selectDue now => seen.phase = .begun ∧ seen.time = some now
  | .claimItem lease _ => ∃ item now, seen.phase = .selected item now ∧ lease.id = item.id ∧
      lease.attempts = item.attempts + 1
  | .commit => ∃ item now lease leaseUntil, seen.phase = .written item now lease leaseUntil
  | .submitAttestation _ _ => ∃ item, seen.item = some item
  | .evaluateAttestation _ => False
  | _ => True

def queueContract : Contract queueCalls QueueSeen where
  rely _ _ := True
  guar := QueueSeen.permits
  observe := QueueSeen.after

section
variable {seen : QueueSeen} {α : Type} {post : QueueSeen → α → Prop}

theorem meets_askQueue (permitted : seen.permits call)
    (meets : ∀ answer, Meets queueContract post (seen.after ⟨call, answer⟩) (rest answer)) :
    Meets queueContract post seen (call.ask >>= rest) :=
  ⟨permitted, fun answer _ => meets answer⟩

section
variable (q : PostgreSQLQueue)

theorem markUnknown_meets (item : QueueItem) (next : Time) (reason : String) :
    Meets queueContract (fun _ _ => True) seen (markUnknown q item next reason) := by
  unfold markUnknown
  cases q.validate with
  | some err => trivial
  | none => exact meets_askQueue trivial fun _ => trivial

theorem markComplete_meets (item : QueueItem) (attestationID : String) :
    Meets queueContract (fun _ _ => True) seen (markComplete q item attestationID) := by
  unfold markComplete
  rcases q.validate with _ | err
  case some => trivial
  dsimp only
  split
  · trivial
  · exact meets_askQueue trivial fun _ => trivial

theorem enqueue_meets (item : QueueItem) :
    Meets queueContract (fun _ _ => True) seen (enqueue q item) := by
  unfold enqueue
  rcases q.validate with _ | err
  case some => trivial
  dsimp only
  split
  · trivial
  · refine meets_askQueue trivial fun answer => ?_
    cases answer <;> trivial

/-- A claimed item was selected, and is running. -/
def ClaimEnds (later : QueueSeen) (result : Except GoError QueueItem) : Prop :=
  ∀ item, result = .ok item → item.state = .running ∧ ∃ selected, later.item = some selected

/-- A claim ends with a selected item, or with nothing. -/
theorem claimTx_meets (begun : seen.phase = .begun)
    (time : seen.time = some now) : Meets queueContract ClaimEnds seen (claimTx q now) := by
  refine meets_askQueue ⟨begun, time⟩ fun answer => ?_
  rcases answer with err | item
  · exact fun _ => nofun
  refine meets_askQueue trivial fun read => ?_
  refine meets_askQueue ⟨item, now, rfl, rfl, rfl⟩ fun err => ?_
  rcases err with _ | err
  case some => exact fun _ => nofun
  refine meets_askQueue ⟨item, now, _, _, rfl⟩ fun err => ?_
  rcases err with _ | err
  case some => exact fun _ => nofun
  intro claimed same
  cases same
  exact ⟨rfl, item, rfl⟩

theorem claim_meets (time : seen.time = some now) :
    Meets queueContract ClaimEnds seen (claim q now) := by
  unfold claim
  rcases q.validate with _ | err
  case some => exact fun _ => nofun
  refine meets_askQueue trivial fun err => ?_
  cases err with
  | some err => exact fun _ => nofun
  | none =>
    refine Meets.bind (claimTx_meets q rfl time) fun later result ends => ?_
    exact meets_askQueue trivial fun _ => ends

end

theorem hold_meets (w : Worker) (item : QueueItem) (reason : GoError) :
    Meets queueContract (fun _ _ => True) seen (w.hold item reason) :=
  meets_askQueue trivial fun _ => markUnknown_meets _ _ _ _

variable {selected : QueueItem}

theorem attest_meets (req : Request) (given : seen.item = some selected) :
    Meets queueContract (fun _ _ => True) seen (attest req) := by
  unfold attest
  split
  · trivial
  refine meets_askQueue ⟨selected, given⟩ fun answer => ?_
  cases answer with
  | error err => trivial
  | ok record =>
    dsimp only
    split <;> trivial

theorem submit_meets (w : Worker) (item : QueueItem) (given : seen.item = some selected) :
    Meets queueContract (fun _ _ => True) seen (w.submit item) := by
  refine meets_askQueue trivial fun answer => ?_
  rcases answer with err | data
  · exact hold_meets w item err
  dsimp only
  split
  · exact hold_meets w item _
  split
  · exact hold_meets w item _
  refine Meets.bind (attest_meets _ given) fun later result _ => ?_
  cases result with
  | error err => exact hold_meets w item err
  | ok record => exact markComplete_meets w.queue item _

theorem processItem_meets (w : Worker)
    (running : item.state = .running) (given : seen.item = some selected) :
    Meets queueContract (fun _ _ => True) seen (w.processItem item) := by
  refine meets_askQueue trivial fun err => ?_
  rcases err with _ | err
  case some =>
    refine meets_askQueue trivial fun now => ?_
    exact Meets.bind (markUnknown_meets _ _ _ _) fun _ _ _ => trivial
  refine meets_askQueue trivial fun err => ?_
  rcases err with _ | err
  case some => exact Meets.bind (hold_meets w item err) fun _ _ _ => trivial
  dsimp only
  rw [if_neg (by rw [running]; exact nofun)]
  exact Meets.bind (submit_meets w item given) fun _ _ _ => trivial

theorem processOne_meets (w : Worker) :
    Meets queueContract (fun _ _ => True) seen w.processOne := by
  refine meets_askQueue trivial fun now => ?_
  refine Meets.bind (claim_meets w.queue rfl) fun later result ends => ?_
  split
  · trivial
  · trivial
  rename_i item
  obtain ⟨running, selected, given⟩ := ends item rfl
  exact processItem_meets w running given

/-- Every call keeps the contract, whatever it is answered. -/
theorem job_meets (job : QueueJob) : Meets queueContract (fun _ _ => True) seen job.program := by
  cases job with
  | enqueue q item => exact Meets.bind (enqueue_meets q item) fun _ _ _ => trivial
  | claim q =>
    refine meets_askQueue trivial fun now => ?_
    exact Meets.bind (claim_meets q rfl) fun _ _ _ => trivial
  | markUnknown q item next reason =>
    exact Meets.bind (markUnknown_meets q item next reason) fun _ _ _ => trivial
  | markComplete q item attestationID =>
    exact Meets.bind (markComplete_meets q item attestationID) fun _ _ _ => trivial
  | processOne w => exact Meets.bind (processOne_meets w) fun _ _ _ => trivial

end

theorem caller_of_reaches (reached : attestors.Reaches ⟨start, []⟩ config)
    (present : thread ∈ config.threads) :
    Meets queueContract (fun _ _ => True) (queueSeenIn thread.past) thread.rest := by
  obtain ⟨shared, program, started, ran⟩ := reached.run_of_thread rfl present
  cases started
  exact (Meets.run ran (job_meets _) (relied_of_true thread.past)).2

end UmojaFlowOS.Attestation
