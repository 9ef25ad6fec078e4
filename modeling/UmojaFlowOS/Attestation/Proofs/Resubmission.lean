import UmojaFlowOS.Attestation.Proofs.QueueFences

/-!
# Items that are submitted again

`Claim` hands every item to the worker as `running`, so the worker's look-up of an
attestation that may exist already is never reached.
-/

namespace UmojaFlowOS.Attestation

open Interaction

def QueueCall.callsFabric : QueueCall → Bool
  | submitAttestation _ _ => true
  | evaluateAttestation _ => true
  | _ => false

/-- An earlier submission of the item, as it was selected, may have reached Fabric: its lease
had expired, or some worker that had selected it has submitted it. -/
def Suspect (config : QueueConfig) (item : QueueItem) : Prop :=
  item.state = .running ∨ ∃ thread ∈ config.threads, ∃ other,
    (queueSeenIn thread.past).item = some other ∧ other.id = item.id ∧
      (queueSeenIn thread.past).submitted = true

/-- Whenever a worker is about to call Fabric for its item, "a suspect item is looked up
under its deterministic id" holds of the call exactly if the item is not suspect: there are
no look-ups. -/
theorem suspect_item_is_looked_up_iff {config : QueueConfig}
    (reached : attestors.Reaches emptyQueue config) {thread : QueueThread} {request : QueueCall}
    {next : request.Answer → Program queueCalls QueueOutcome} (present : thread ∈ config.threads)
    (asks : thread.rest = .call request next) (fabric : request.callsFabric = true) :
    ∃ item, (queueSeenIn thread.past).item = some item ∧
      ((Suspect config item → request = .evaluateAttestation
          (deterministicAttestationID item.releaseSHA item.evidenceID item.payloadDigest)) ↔
        ¬ Suspect config item) := by
  have meets := caller_of_reaches reached present
  rw [asks] at meets
  have permitted : (queueSeenIn thread.past).permits request := meets.1
  cases request with
  | submitAttestation req digest =>
    obtain ⟨item, selected⟩ := permitted
    refine ⟨item, selected, fun looked suspect => ?_, fun clear suspect => absurd suspect clear⟩
    cases looked suspect
  | evaluateAttestation recordID => exact permitted.elim
  | _ => cases fabric

/-! ## One item, submitted twice -/

def processing (i : Nat) (time : Time) (byte : UInt8) :
    List (Action QueueJob QueueChoice Disconnect) :=
  .spawn (.processOne {}) :: claiming i time byte ++
    [.exec i (.ends none), .exec i (.ends none), .exec i (.evidence (.ok [1]))]

/-- The submission of worker 1 ends in a timeout and the item is held; then worker 2
processes it. -/
def resubmission : List (Action QueueJob QueueChoice Disconnect) :=
  enqueueing ++ processing 1 2 1 ++
    [.exec 1 (.record (.error (.new "context deadline exceeded"))), .exec 1 (.reads 3),
      .exec 1 .proceeds] ++ processing 2 5 2

/-- The state of each caller's item when it was selected, and whether it was submitted. -/
def QueueConfig.submissions (config : QueueConfig) : List (Option (String × ItemState) × Bool) :=
  config.threads.map fun thread => ((queueSeenIn thread.past).item.map fun item =>
    (item.id, item.state), (queueSeenIn thread.past).submitted)

def atFabric (thread : QueueThread) : Bool :=
  match thread.rest with
  | .call request _ => request.callsFabric
  | .ret _ => false

/-- The item that was marked unknown after its submission is submitted once more. -/
theorem unknown_item_is_submitted_again :
    ∃ config, attestors.Reaches emptyQueue config ∧
      QueueConfig.submissions config = [(none, false), (some (itemID, .pending), true),
        (some (itemID, .unknown), true)] := by
  refine Machine.exists_of_replay
    (resubmission ++ [.exec 2 (.record (.error (.new "context deadline exceeded")))]) ?_
  decide +kernel

/-- The second worker is about to call Fabric, and does not look the item up. -/
theorem unknown_item_is_not_looked_up :
    ∃ config, attestors.Reaches emptyQueue config ∧ ∃ thread ∈ config.threads,
      ∃ (request : QueueCall) (next : request.Answer → Program queueCalls QueueOutcome),
        thread.rest = .call request next ∧ request.callsFabric = true ∧
        ∃ item, (queueSeenIn thread.past).item = some item ∧
          ((Suspect config item → request = .evaluateAttestation
              (deterministicAttestationID item.releaseSHA item.evidenceID item.payloadDigest)) ↔
            ¬ Suspect config item) := by
  have found : ∃ config, attestors.Reaches emptyQueue config ∧
      ∃ thread ∈ config.threads, atFabric thread = true :=
    Machine.exists_of_replay resubmission (by decide +kernel)
  obtain ⟨config, reached, thread, present, fabric⟩ := found
  unfold atFabric at fabric
  split at fabric
  · rename_i request next asks
    exact ⟨config, reached, thread, present, request, next, asks, fabric,
      suspect_item_is_looked_up_iff reached present asks fabric⟩
  · cases fabric

end UmojaFlowOS.Attestation
