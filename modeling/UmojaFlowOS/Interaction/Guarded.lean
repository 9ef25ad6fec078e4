import UmojaFlowOS.Interaction.Concurrent

/-!
# Runs whose steps meet a condition

A run of a machine in which every action was allowed where it was taken, and what a thread
can have been told by answers of a certain kind.
-/

namespace UmojaFlowOS.Interaction

variable {P : Interface} {ι α S χ ε : Type}

namespace Machine

variable (M : Machine P ι α S χ ε) (allowed : Config P ι α S → Action ι χ ε → Bool)

/-- Some schedule of allowed actions leads from `config` to `later`. -/
inductive ReachesBy (config : Config P ι α S) : Config P ι α S → Prop
  | refl : ReachesBy config config
  | tail {middle later : Config P ι α S} (action : Action ι χ ε) :
      ReachesBy config middle → allowed middle action = true →
      M.next middle action = some later → ReachesBy config later

/-- Replays a schedule as long as its actions are allowed. -/
def replayBy (config : Config P ι α S) : List (Action ι χ ε) → Option (Config P ι α S)
  | [] => some config
  | action :: schedule =>
    if allowed config action then
      (M.next config action).bind fun config => replayBy config schedule
    else none

variable {M allowed} {config middle later : Config P ι α S}

theorem ReachesBy.reaches (ran : M.ReachesBy allowed config later) : M.Reaches config later := by
  induction ran with
  | refl => exact .refl
  | tail action _ _ taken ih => exact .tail action ih taken

theorem ReachesBy.trans (first : M.ReachesBy allowed config middle)
    (second : M.ReachesBy allowed middle later) : M.ReachesBy allowed config later := by
  induction second with
  | refl => exact first
  | tail action _ permitted taken ih => exact .tail action ih permitted taken

theorem reachesBy_of_replayBy {schedule : List (Action ι χ ε)}
    (replayed : M.replayBy allowed config schedule = some later) :
    M.ReachesBy allowed config later := by
  induction schedule generalizing config with
  | nil =>
    cases replayed
    exact .refl
  | cons action schedule ih =>
    rw [replayBy] at replayed
    by_cases permitted : allowed config action = true
    · rw [if_pos permitted] at replayed
      obtain ⟨middle, taken, replayed⟩ := Option.bind_eq_some_iff.mp replayed
      exact (ReachesBy.tail action .refl permitted taken).trans (ih replayed)
    · rw [if_neg permitted] at replayed
      cases replayed

theorem exists_of_replayBy {property : Config P ι α S → Prop} [DecidablePred property]
    (schedule : List (Action ι χ ε))
    (found : (M.replayBy allowed config schedule).any (fun later => decide (property later)) = true) :
    ∃ later, M.ReachesBy allowed config later ∧ property later := by
  obtain ⟨later, replayed, holds⟩ := (Option.any_eq_true _ _).mp found
  exact ⟨later, reachesBy_of_replayBy replayed, of_decide_eq_true holds⟩

/-! ## What a thread has been told -/

/-- A thread that has seen one more event was answered it in this step. -/
theorem next_answered {action : Action ι χ ε} (taken : M.next config action = some later) {i : Nat}
    {before after : Thread P ι α} {event : Event P} (first : config.threads[i]? = some before)
    (second : later.threads[i]? = some after) (longer : after.past = before.past ++ [event]) :
    ∃ choice next, action = .exec i choice ∧
      before = ⟨before.label, before.past, .call event.call next⟩ ∧
      M.exec config.shared i before.label event.call choice = some (event.answer, later.shared) := by
  have unchanged : later.threads[i]? ≠ config.threads[i]? := by
    intro same
    rw [first, second] at same
    rw [Option.some.inj same] at longer
    simp at longer
  cases action with
  | spawn label =>
    obtain ⟨program, -, rfl⟩ := next_spawn taken
    obtain ⟨bound, -⟩ := List.getElem?_eq_some_iff.mp first
    exact absurd (List.getElem?_append_left bound) unchanged
  | env change =>
    obtain ⟨shared, -, rfl⟩ := next_env taken
    exact absurd rfl unchanged
  | exec j choice =>
    obtain ⟨label, past, request, next, answer, shared, active, done, rfl⟩ := next_exec taken
    by_cases same : j = i
    · subst same
      obtain rfl := Option.some.inj (active.symm.trans first)
      rcases getElem?_set_cases second with ⟨-, rfl⟩ | ⟨other, -⟩
      · obtain rfl : (⟨request, answer⟩ : Event P) = event := by
          simpa using longer
        exact ⟨choice, next, rfl, rfl, done⟩
      · exact absurd rfl other
    · exact absurd (List.getElem?_set_ne same) unchanged

/-! ## What new threads are told -/

/-- What the answers satisfy while a property is kept is satisfied by everything that a
thread started meanwhile has been told. -/
theorem Reaches.told_of_new (holds : Config P ι α S → Prop) (told : Event P → Prop)
    (keeps : ∀ {config later : Config P ι α S} (action : Action ι χ ε), holds config →
      M.next config action = some later → holds later)
    (answers : ∀ {config : Config P ι α S} {after : S} {i : Nat} {label : ι} {past : List (Event P)}
      {request : P.Call} {next : P.Answer request → Program P α} {choice : χ}
      {answer : P.Answer request}, holds config →
      config.threads[i]? = some ⟨label, past, .call request next⟩ →
      M.exec config.shared i label request choice = some (answer, after) → told ⟨request, answer⟩)
    (reached : M.Reaches config later) (start : holds config) :
    holds later ∧ ∀ (i : Nat) (thread : Thread P ι α), config.threads.length ≤ i →
      later.threads[i]? = some thread → ∀ event ∈ thread.past, told event := by
  induction reached with
  | refl =>
    refine ⟨start, fun i thread new present => ?_⟩
    obtain ⟨bound, -⟩ := List.getElem?_eq_some_iff.mp present
    omega
  | tail action _ taken ih =>
    obtain ⟨held, before⟩ := ih
    refine ⟨keeps action held taken, fun i thread new present => ?_⟩
    rcases next_cases taken with ⟨label, program, -, rfl⟩ |
      ⟨j, label, past, request, next, choice, answer, shared, active, done, rfl⟩ | ⟨event, shared, -, rfl⟩
    · rcases getElem?_concat_cases present with ⟨-, rfl⟩ | old
      · simp
      · exact before i thread new old
    · rcases getElem?_set_cases present with ⟨rfl, rfl⟩ | ⟨-, old⟩
      · intro event member
        rcases List.mem_append.mp member with old | last
        · exact before i _ new active event old
        · rw [List.mem_singleton.mp last]
          exact answers held active done
      · exact before i thread new old
    · exact before i thread new present

end Machine

end UmojaFlowOS.Interaction
