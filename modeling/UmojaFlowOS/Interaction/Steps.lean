import Mathlib.Init

/-!
# Runs of a step function

The states a system reaches by events that all meet a condition where they happen.
-/

namespace UmojaFlowOS.Interaction

variable {S E : Type} {next : S → E → Option S} {cond : S → E → Prop}

/-- `next` says what an event does, if it can happen. -/
inductive Stepped (next : S → E → Option S) (cond : S → E → Prop) (start : S) : S → Prop
  | refl : Stepped next cond start start
  | step (event : E) {middle later : S} : Stepped next cond start middle → cond middle event →
      next middle event = some later → Stepped next cond start later

theorem Stepped.invariant {holds : S → Prop} (initially : holds start)
    (kept : ∀ {s event later}, holds s → cond s event → next s event = some later → holds later)
    (reached : Stepped next cond start later) : holds later := by
  induction reached with
  | refl => exact initially
  | step event _ met taken ih => exact kept ih met taken

theorem Stepped.replay (reached : Stepped next (fun _ _ => True) start middle) (events : List E)
    (replayed : events.foldlM next middle = some later) :
    Stepped next (fun _ _ => True) start later := by
  induction events generalizing middle with
  | nil =>
    cases replayed
    exact reached
  | cons event events ih =>
    rw [List.foldlM_cons] at replayed
    obtain ⟨after, taken, replayed⟩ := Option.bind_eq_some_iff.mp replayed
    exact ih (reached.step event trivial taken) replayed

end UmojaFlowOS.Interaction
