import UmojaFlowOS.Interaction.Program

/-!
# Contracts of programs

A contract says which requests a program may make after what it has seen
(`guar`), given that the answers it gets are of a certain kind (`rely`). What
has been seen is summarised by a ghost value; the whole history of answered
requests is one such summary. `Meets` is checked along the program text, and
`Meets.run` turns it into a statement about every run, finished or stopped.
-/

namespace UmojaFlowOS.Interaction

open Program

variable {P R : Interface} {α β γ : Type}

structure Contract (P : Interface) (γ : Type) where
  rely : γ → Event P → Prop
  guar : γ → P.Call → Prop
  observe : γ → Event P → γ

/-- `program`, started when `seen` summarises the past, makes only requests its
contract allows and returns only values that satisfy `post`. -/
def Meets (K : Contract P γ) (post : γ → α → Prop) (seen : γ) : Program P α → Prop
  | .ret value => post seen value
  | .call request next => K.guar seen request ∧
      ∀ answer, K.rely seen ⟨request, answer⟩ →
        Meets K post (K.observe seen ⟨request, answer⟩) (next answer)

section
variable {K : Contract P γ} {post later : γ → α → Prop} {seen : γ}

@[simp] theorem meets_ret {value : α} : Meets K post seen (.ret value) ↔ post seen value := Iff.rfl

theorem meets_call {request : P.Call} {next : P.Answer request → Program P α} :
    Meets K post seen (.call request next) ↔ K.guar seen request ∧
      ∀ answer, K.rely seen ⟨request, answer⟩ →
        Meets K post (K.observe seen ⟨request, answer⟩) (next answer) := Iff.rfl

theorem meets_ask_bind {request : P.Call} {rest : P.Answer request → Program P α} :
    Meets K post seen (ask request >>= rest) ↔ K.guar seen request ∧
      ∀ answer, K.rely seen ⟨request, answer⟩ →
        Meets K post (K.observe seen ⟨request, answer⟩) (rest answer) := Iff.rfl

theorem Meets.mono {program : Program P α} (meets : Meets K post seen program)
    (implies : ∀ seen value, post seen value → later seen value) : Meets K later seen program := by
  induction program generalizing seen with
  | ret value => exact implies seen value meets
  | call request next ih => exact ⟨meets.1, fun answer given => ih answer (meets.2 answer given)⟩

/-- Sequencing: the second part is met after everything the first part can
leave behind. -/
theorem meets_bind {program : Program P β} {rest : β → Program P α} :
    Meets K post seen (program >>= rest) ↔
      Meets K (fun seen value => Meets K post seen (rest value)) seen program := by
  induction program generalizing seen with
  | ret value => rfl
  | call request next ih =>
    rw [call_bind, meets_call, meets_call]
    exact and_congr_right fun _ => forall_congr' fun answer => imp_congr_right fun _ => ih answer

theorem Meets.bind {program : Program P β} {rest : β → Program P α} {middle : γ → β → Prop}
    (first : Meets K middle seen program)
    (second : ∀ seen value, middle seen value → Meets K post seen (rest value)) :
    Meets K post seen (program >>= rest) :=
  meets_bind.mpr (first.mono second)

end

/-- The answers of `trace` are as the contract relies on, each at its place. -/
def Relied (K : Contract P γ) : γ → List (Event P) → Prop
  | _, [] => True
  | seen, event :: trace => K.rely seen event ∧ Relied K (K.observe seen event) trace

theorem relied_of_true {guar : γ → P.Call → Prop} {observe : γ → Event P → γ}
    (trace : List (Event P)) {seen : γ} : Relied ⟨fun _ _ => True, guar, observe⟩ seen trace := by
  induction trace generalizing seen with
  | nil => trivial
  | cons event trace ih => exact ⟨trivial, ih⟩

variable {trace : List (Event P)}

theorem relied_of_forall {told : Event P → Prop} {guar : γ → P.Call → Prop}
    {observe : γ → Event P → γ} (all : ∀ event ∈ trace, told event) {seen : γ} :
    Relied ⟨fun _ => told, guar, observe⟩ seen trace := by
  induction trace generalizing seen with
  | nil => trivial
  | cons event trace ih =>
    exact ⟨all event (by simp), ih fun later member => all later (by simp [member])⟩

def Allowed (K : Contract P γ) : γ → List (Event P) → Prop
  | _, [] => True
  | seen, event :: trace => K.guar seen event.call ∧ Allowed K (K.observe seen event) trace

theorem Allowed.of_mem {K : Contract P γ} {event : Event P} :
    ∀ {seen : γ}, Allowed K seen trace → event ∈ trace → ∃ seen, K.guar seen event.call := by
  induction trace with
  | nil => simp
  | cons first trace ih =>
    intro seen allowed member
    rcases List.mem_cons.mp member with rfl | member
    · exact ⟨seen, allowed.1⟩
    · exact ih allowed.2 member

theorem Allowed.split {K : Contract P γ} {before after : List (Event P)} {event : Event P} :
    ∀ {seen : γ}, Allowed K seen (before ++ event :: after) →
      K.guar (before.foldl K.observe seen) event.call := by
  induction before with
  | nil => exact fun allowed => allowed.1
  | cons first before ih => exact fun allowed => ih allowed.2

variable {program : Program P α}

/-- A contract met by the text holds along every run whose answers are relied on. -/
theorem Meets.run {K : Contract P γ} {post : γ → α → Prop} {rest : Program P α}
    (ran : Run program trace rest) :
    ∀ {seen : γ}, Meets K post seen program → Relied K seen trace →
      Allowed K seen trace ∧ Meets K post (trace.foldl K.observe seen) rest := by
  induction ran with
  | stop => exact fun meets _ => ⟨trivial, meets⟩
  | step request next answer _ ih =>
    intro seen meets relied
    obtain ⟨allowed, rest⟩ := ih (meets.2 answer relied.1) relied.2
    exact ⟨⟨meets.1, allowed⟩, rest⟩

/-! ## Contracts over the whole history -/

/-- The contract whose summary is the history of answered requests, in order. -/
def onHistory (rely : List (Event P) → Event P → Prop) (guar : List (Event P) → P.Call → Prop) :
    Contract P (List (Event P)) where
  rely := rely
  guar := guar
  observe history event := history ++ [event]

section
variable {rely : List (Event P) → Event P → Prop} {guar : List (Event P) → P.Call → Prop}

@[simp] theorem onHistory_rely : (onHistory rely guar).rely = rely := rfl
@[simp] theorem onHistory_guar : (onHistory rely guar).guar = guar := rfl
@[simp] theorem onHistory_observe (history : List (Event P)) (event : Event P) :
    (onHistory rely guar).observe history event = history ++ [event] := rfl

theorem foldl_observe_onHistory (trace history : List (Event P)) :
    trace.foldl (onHistory rely guar).observe history = history ++ trace := by
  induction trace generalizing history with
  | nil => simp
  | cons event trace ih =>
    rw [List.foldl_cons, ih]
    simp

theorem Allowed.at {before after : List (Event P)} {event : Event P}
    (allowed : Allowed (onHistory rely guar) before (trace ++ event :: after)) :
    guar (before ++ trace) event.call := by
  have permitted := allowed.split
  rwa [foldl_observe_onHistory] at permitted

end

abbrev anyAnswer : List (Event P) → Event P → Prop := fun _ _ => True

theorem relied_anyAnswer {guar : List (Event P) → P.Call → Prop} (before trace : List (Event P)) :
    Relied (onHistory anyAnswer guar) before trace := by
  induction trace generalizing before with
  | nil => trivial
  | cons event trace ih => exact ⟨trivial, ih _⟩

/-- What a contract over the history says of a run under arbitrary answers:
each request was allowed by what preceded it, and a finished run satisfies the
postcondition of its whole trace. -/
theorem Meets.run_history {guar : List (Event P) → P.Call → Prop}
    {post : List (Event P) → α → Prop} {rest : Program P α}
    (meets : Meets (onHistory anyAnswer guar) post [] program) (ran : Run program trace rest) :
    (∀ before event after, trace = before ++ event :: after → guar before event.call) ∧
      ∀ value, rest = .ret value → post trace value := by
  obtain ⟨allowed, ends⟩ := meets.run ran (relied_anyAnswer [] trace)
  rw [foldl_observe_onHistory, List.nil_append] at ends
  refine ⟨?_, ?_⟩
  · rintro before event after rfl
    simpa using allowed.at
  · rintro value rfl
    exact ends

/-! ## Contracts of linked programs -/

variable {serve : (request : P.Call) → Program R (P.Answer request)}

/-- Linking: if a program keeps its contract and every request it may make is
served by a program that keeps a lower contract and answers as the upper one
relies on, the linked program keeps the lower contract. -/
theorem Meets.link {rely : Event P → Prop} {guar : P.Call → Prop} {post : α → Prop}
    {K : Contract R γ} (serves : ∀ request seen, guar request →
      Meets K (fun _ answer => rely ⟨request, answer⟩) seen (serve request))
    (meets : Meets ⟨fun _ => rely, fun _ => guar, fun _ _ => ()⟩ (fun _ => post) () program)
    (seen : γ) : Meets K (fun _ => post) seen (program.link serve) := by
  induction program generalizing seen with
  | ret value => exact meets
  | call request next ih =>
    rw [link_call]
    exact (serves request seen meets.1).bind fun seen answer relied =>
      ih answer (meets.2 answer relied) seen

/-- Linking with summaries on both sides: while the summaries stay related, what the
program keeps above is kept below. -/
theorem Meets.link_related {δ : Type} {K : Contract P γ} {L : Contract R δ} {post : γ → α → Prop}
    {related : γ → δ → Prop} (serves : ∀ request seen low, related seen low → K.guar seen request →
      Meets L (fun low answer => K.rely seen ⟨request, answer⟩ ∧
        related (K.observe seen ⟨request, answer⟩) low) low (serve request)) {seen : γ} {low : δ}
    (meets : Meets K post seen program) (start : related seen low) :
    Meets L (fun low value => ∃ seen, related seen low ∧ post seen value) low
      (program.link serve) := by
  induction program generalizing seen low with
  | ret value => exact ⟨seen, start, meets⟩
  | call request next ih =>
    rw [link_call]
    refine meets_bind.mpr ((serves request seen low start meets.1).mono fun low answer served => ?_)
    exact ih answer (meets.2 answer served.1) served.2

theorem meets_link_ite {K : Contract R γ} {post : γ → α → Prop} {seen : γ} {cond : Prop}
    [Decidable cond] {yes no : Program P α} (holds : cond → Meets K post seen (yes.link serve))
    (fails : ¬ cond → Meets K post seen (no.link serve)) :
    Meets K post seen ((if cond then yes else no).link serve) := by
  by_cases taken : cond
  · rw [if_pos taken]
    exact holds taken
  · rw [if_neg taken]
    exact fails taken

end UmojaFlowOS.Interaction
