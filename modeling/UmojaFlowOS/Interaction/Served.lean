import UmojaFlowOS.Interaction.Concurrent

/-!
# Programs served alone

Total correctness of a program that is served without interference: whatever
choices of a certain kind are made it goes on, ends, and ends well.
-/

namespace UmojaFlowOS.Interaction

open Program

variable {P : Interface} {α β S χ : Type}

/-- Under choices that are `calm`, the program started in `state` is never stuck
and ends only with values and states that are `good`. -/
def Yields (exec : S → (request : P.Call) → χ → Option (P.Answer request × S)) (calm : χ → Prop)
    (good : α → S → Prop) : Program P α → S → Prop
  | .ret value, state => good value state
  | .call request next, state =>
    (∃ choice answer after, calm choice ∧ exec state request choice = some (answer, after)) ∧
      ∀ choice answer after, calm choice → exec state request choice = some (answer, after) →
        Yields exec calm good (next answer) after

section
variable {exec : S → (request : P.Call) → χ → Option (P.Answer request × S)} {calm : χ → Prop}
  {good : α → S → Prop} {state : S}

theorem yields_ask_bind {request : P.Call} {rest : P.Answer request → Program P α} :
    Yields exec calm good (ask request >>= rest) state ↔
      (∃ choice answer after, calm choice ∧ exec state request choice = some (answer, after)) ∧
        ∀ choice answer after, calm choice → exec state request choice = some (answer, after) →
          Yields exec calm good (rest answer) after := Iff.rfl

/-- Sequencing: the second part starts where the first one ends. -/
theorem Yields.bind {program : Program P β} {rest : β → Program P α} {middle : β → S → Prop}
    (first : Yields exec calm middle program state)
    (second : ∀ value after, middle value after → Yields exec calm good (rest value) after) :
    Yields exec calm good (program >>= rest) state := by
  induction program generalizing state with
  | ret value => exact second value state first
  | call request next ih =>
    refine ⟨first.1, fun choice answer after calm executed => ?_⟩
    exact ih answer (first.2 choice answer after calm executed)

/-- Some calm schedule serves the program to its end, and all that do end well. -/
theorem Yields.served {program : Program P α} (yields : Yields exec calm good program state) :
    (∃ choices value after, (∀ choice ∈ choices, calm choice) ∧
      program.serve exec state choices = some (value, after)) ∧
    ∀ choices value after, (∀ choice ∈ choices, calm choice) →
      program.serve exec state choices = some (value, after) → good value after := by
  induction program generalizing state with
  | ret value =>
    refine ⟨⟨[], value, state, by simp, rfl⟩, ?_⟩
    intro choices result after _ served
    cases serve_ret served
    exact yields
  | call request next ih =>
    obtain ⟨⟨choice, answer, after, calmly, executed⟩, all⟩ := yields
    refine ⟨?_, ?_⟩
    · obtain ⟨choices, value, last, rest, served⟩ :=
        (ih answer (all choice answer after calmly executed)).1
      refine ⟨choice :: choices, value, last, List.forall_mem_cons.mpr ⟨calmly, rest⟩, ?_⟩
      rw [serve, executed]
      exact served
    intro choices value last calmly served
    obtain ⟨choice, rest, answer, after, rfl, executed, later⟩ := serve_call served
    obtain ⟨first, others⟩ := List.forall_mem_cons.mp calmly
    exact (ih answer (all choice answer after first executed)).2 rest value last others later

end

end UmojaFlowOS.Interaction
