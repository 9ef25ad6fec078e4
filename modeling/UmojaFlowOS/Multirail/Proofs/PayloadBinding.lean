import UmojaFlowOS.Multirail.Proofs.SingleFlight

/-!
# What a key is bound to

`begin` compares the digest of the payload, and nothing else of the intent, with the one that
the key is bound to (`failover.go:113-115`).
-/

namespace UmojaFlowOS.Multirail

open Crypto Interaction

def begunAnswer : Event requests → Option (Except RailError (Nat × Bool))
  | ⟨.begin _ _, answer⟩ => some answer
  | _ => none

section
variable {config : CallersConfig} {first second : CallerThread}

theorem begun_of_answer (reached : callers.Reaches newCoordinator config)
    (present : first ∈ config.threads)
    (begun : answer ∈ first.past.filterMap begunAnswer) : Begun first.label answer first.past := by
  obtain ⟨⟨request, given⟩, member, same⟩ := List.mem_filterMap.mp begun
  cases request with
  | begin key digest =>
    cases same
    obtain ⟨before, after, split⟩ := List.append_of_mem member
    obtain ⟨rfl, rfl, -⟩ := (caller_meets reached present).1 before _ after split
    exact member
  | _ => cases same

/-- A key stays bound to the payload of whoever was admitted under it. -/
theorem bindings_of_begun (sound : Sound config) (present : first ∈ config.threads)
    (begun : Begun first.label (.ok admission) first.past) :
    config.shared.coordinator.bindings first.label.intent.idempotencyKey =
      some (sha256 first.label.intent.payload) := by
  obtain ⟨i, found⟩ := List.getElem?_of_mem present
  obtain ⟨call, leads⟩ := admission
  cases leads with
  | true =>
    rcases sound.led i first call found begun with ⟨running, -⟩ | ⟨outcome, decided, -⟩
    · exact running.1
    · exact decided.1
  | false =>
    rcases (sound.informed i first found).follows call begun with running | ⟨outcome, decided, -⟩
    · exact running.1
    · exact decided.1

/-- A key that is bound to another payload admits no call. -/
theorem rejected_of_differs (sound : Sound config) (present : second ∈ config.threads)
    (bound : config.shared.coordinator.bindings second.label.intent.idempotencyKey = some digest)
    (differs : digest ≠ sha256 second.label.intent.payload) {admission : Nat × Bool} :
    ¬ Begun second.label (.ok admission) second.past := by
  intro begun
  exact differs (Option.some.inj (bound.symm.trans (bindings_of_begun sound present begun)))

theorem follows_of_gaveUp (reached : callers.Reaches newCoordinator config)
    (present : second ∈ config.threads) (gaveUp : GaveUp second.past) :
    ∃ call, Begun second.label (.ok (call, false)) second.past := by
  obtain ⟨call, err, member⟩ := gaveUp
  obtain ⟨before, after, split⟩ := List.append_of_mem member
  refine ⟨call, ?_⟩
  rw [split]
  exact List.mem_append_left _ ((caller_meets reached present).1 before _ after split)

/-- What a call returns that comes after another one was admitted under its key, and that
passes the checks before `begin`. If the digests of the payloads differ it is refused with
`ErrIdempotencyConflict` and given no result; if they are equal it is given what the first
call was given, whatever else of the intents differs. -/
theorem returns_by_payload_digest (reached : callers.Reaches newCoordinator config)
    (left : first ∈ config.threads) (right : second ∈ config.threads)
    (same : first.label.intent.idempotencyKey = second.label.intent.idempotencyKey)
    {admission : Nat × Bool} (admitted : .ok admission ∈ first.past.filterMap begunAnswer)
    (checked : ¬ Refused second.label second.past)
    {value : Result × Option RailError} (returned : second.rest = .ret value) :
    (sha256 first.label.intent.payload ≠ sha256 second.label.intent.payload →
      value = ({}, some .idempotencyConflict)) ∧
    (sha256 first.label.intent.payload = sha256 second.label.intent.payload →
      ¬ GaveUp second.past → ¬ GaveUp first.past → ¬ Refused first.label first.past →
      ∀ other, first.rest = .ret other → value = other) := by
  have sound := sound_of_reaches reached
  obtain ⟨j, found⟩ := List.getElem?_of_mem right
  have returns := (caller_meets reached right).2
  rw [returned] at returns
  constructor
  · intro differs
    have bound := bindings_of_begun sound left (begun_of_answer reached left admitted)
    rw [same] at bound
    cases returns with
    | refused _ refused => exact absurd refused checked
    | gaveUp _ gaveUp =>
      obtain ⟨call, begun⟩ := follows_of_gaveUp reached right gaveUp
      exact absurd begun (rejected_of_differs sound right bound differs)
    | rejected err begun =>
      rw [((sound.informed j second found).rejected err begun).1]
    | followed call result err begun | led call result err begun =>
      exact absurd begun (rejected_of_differs sound right bound differs)
  · intro equal waited waited' checked' other returned'
    obtain ⟨i, found'⟩ := List.getElem?_of_mem left
    have returns' := (caller_meets reached left).2
    rw [returned'] at returns'
    have one := sound.told found' returns' checked' waited'
    have two := sound.told found returns checked waited
    rw [Caller.key, Caller.digest, same, equal] at one
    exact two.unique one

end

/-! ## Two payments under one key -/

/-- A payment of another amount, with the key and the payload of the first, and one with
another payload that does not expire. -/
def dearerCaller : Caller :=
  { expiringCaller with intent := { expiringIntent with id := "i5", amountMinor := 5 } }

def changedCaller : Caller :=
  { dearerCaller with intent := { dearerCaller.intent with payload := [2], expiresAt := 0 } }

def threeSchedule : List (Action Caller Choice ContextEnd) :=
  [.spawn expiringCaller, .exec 0 (.clock 50), .exec 0 .proceeds,
    .exec 0 (.rail ⟨"p1", .submitted, false, ""⟩ none), .exec 0 .proceeds,
    .spawn dearerCaller, .exec 1 (.clock 60), .exec 1 .proceeds, .exec 1 .proceeds,
    .spawn changedCaller, .exec 2 .proceeds]

/-- The payment of another amount is given the result of the first. -/
theorem dearer_payment_is_given_the_first :
    ∃ config, callers.Reaches newCoordinator config ∧
      config.threads.map (fun thread => (thread.label, thread.rest.returned)) =
        [(expiringCaller, some (acceptedOnce, none)), (dearerCaller, some (acceptedOnce, none)),
          (changedCaller, some ({}, some .idempotencyConflict))] :=
  Machine.exists_of_replay threeSchedule (by decide +kernel)

/-- A second call with another payload is given the conflict. -/
theorem changed_payload_is_refused :
    ∃ config, callers.Reaches newCoordinator config ∧ ∃ first ∈ config.threads,
      ∃ second ∈ config.threads, first.label = expiringCaller ∧ second.label = changedCaller ∧
      second.rest = .ret ({}, some .idempotencyConflict) := by
  have played : ∃ config, callers.Reaches newCoordinator config ∧
      (∃ first ∈ config.threads, first.label = expiringCaller ∧
        .ok (0, true) ∈ first.past.filterMap begunAnswer) ∧
      ∃ second ∈ config.threads, second.label = changedCaller ∧ second.rest.returned.isSome :=
    Machine.exists_of_replay threeSchedule (by decide +kernel)
  obtain ⟨config, reached, ⟨first, left, own, admitted⟩, second, right, other, ended⟩ := played
  obtain ⟨value, ended⟩ := Option.isSome_iff_exists.mp ended
  have returned := Program.eq_ret_of_returned ended
  have same : first.label.intent.idempotencyKey = second.label.intent.idempotencyKey := by
    rw [own, other]
    rfl
  have checked : ¬ Refused second.label second.past := by
    rw [other]
    simp [Refused, changedCaller, dearerCaller, expiringCaller, expiringIntent]
  have differs : sha256 first.label.intent.payload ≠ sha256 second.label.intent.payload := by
    rw [own, other]
    decide +kernel
  have refused := (returns_by_payload_digest reached left right same admitted checked returned).1
  exact ⟨config, reached, first, left, second, right, own, other, refused differs ▸ returned⟩

end UmojaFlowOS.Multirail
