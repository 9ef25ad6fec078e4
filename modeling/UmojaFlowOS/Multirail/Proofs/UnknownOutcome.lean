import UmojaFlowOS.Multirail.ExecutionHandler

/-!
# Errors after a possible acceptance

`Execute` answers `ErrUnknownOutcome` wherever its own decision stops short of a
proof that nothing happened. The exception is an error of the secondary's `Submit`,
which is handed on as it is: the handler then queues nothing.
-/

namespace UmojaFlowOS.Multirail

open Interaction
open Program (ask)

/-! ## What the rails have answered -/

/-- The answers of the rails in one `Execute`. -/
structure RailAnswers where
  primary : Option (Submission × Option RailError) := none
  query : Option (Submission × Option RailError) := none
  secondary : Option (Submission × Option RailError) := none

namespace RailAnswers

def observe (answers : RailAnswers) : Event requests → RailAnswers
  | ⟨.submit .primary _, answer⟩ => { answers with primary := some answer }
  | ⟨.submit .secondary _, answer⟩ => { answers with secondary := some answer }
  | ⟨.query _, answer⟩ => { answers with query := some answer }
  | _ => answers

def heard (trace : List (Event requests)) : RailAnswers := trace.foldl observe {}

end RailAnswers

/-- An answer of `Submit` that proves that the rail did nothing. -/
def provesNoEffect : Submission × Option RailError → Bool
  | (out, none) => !out.status.accepted && decide (out.status ≠ .unknown) &&
      out.retryableWithoutBusinessEffect
  | (_, some _) => false

/-- An answer of `Query` that proves that the rail did nothing. -/
def deniesEffect : Submission × Option RailError → Bool
  | (q, none) => q.status.declined && q.retryableWithoutBusinessEffect
  | (_, some _) => false

section
variable (answers : RailAnswers)

/-- Some rail may have accepted the instruction: a `Submit` was called that did not
prove the contrary, nor did a `Query` after a `Submit` that failed. -/
def RailAnswers.mayHaveAccepted : Bool :=
  (match answers.primary with
    | none => false
    | some (out, none) => !provesNoEffect (out, none)
    | some (_, some _) => !answers.query.any deniesEffect) ||
  answers.secondary.any fun answer => !provesNoEffect answer

def RailAnswers.secondaryError : Option RailError :=
  answers.secondary.bind Prod.snd

/-- An error is returned as the unknown outcome whenever some rail may have accepted. -/
def Reports (err : Option RailError) : Prop :=
  answers.mayHaveAccepted = true → ∀ returned, err = some returned → returned.isUnknownOutcome = true

/-- The secondary's own error, if there is one, is the unknown outcome. -/
def SecondaryReports : Prop :=
  ∀ own, answers.secondaryError = some own → own.isUnknownOutcome = true

/-! ## The exits of `Execute` -/

/-- Nothing is asked of the requests; the summary is what the rails answer. -/
abbrev hearing : Contract requests RailAnswers :=
  ⟨fun _ _ => True, fun _ _ => True, RailAnswers.observe⟩

def Exits (value : Result × Option RailError) : Prop :=
  Reports answers value.2 ↔ SecondaryReports answers

end

variable {answers : RailAnswers}

theorem exits_of_reports (silent : answers.secondaryError = none)
    (reports : Reports answers value.2) : Exits answers value := by
  refine ⟨fun _ own failed => ?_, fun _ => reports⟩
  rw [silent] at failed
  cases failed

variable {result : Result}

section
variable (silent : answers.secondaryError = none)
include silent

theorem exits_ok : Exits answers (result, none) :=
  exits_of_reports silent fun _ _ none => absurd none nofun

theorem exits_unknown
    (unknown : err.isUnknownOutcome = true) : Exits answers (result, some err) := by
  refine exits_of_reports silent fun _ returned same => ?_
  rw [← Option.some.inj same]
  exact unknown

theorem exits_harmless
    (harmless : answers.mayHaveAccepted = false) : Exits answers (result, some err) := by
  refine exits_of_reports silent fun accepted => ?_
  rw [harmless] at accepted
  cases accepted

end

section
variable (harmless : answers.mayHaveAccepted = false) (unused : answers.secondary = none)
include harmless unused

theorem fallBack_exits :
    Meets hearing Exits answers (fallBack intent secondary) := by
  have silent : answers.secondaryError = none := by rw [RailAnswers.secondaryError, unused]; rfl
  rcases secondary with _ | rail
  · exact exits_harmless silent harmless
  refine meets_ask_bind.mpr ⟨trivial, fun (alt, err) _ => ?_⟩
  cases err with
  | none =>
    dsimp only
    split
    · exact exits_unknown rfl rfl
    · exact exits_ok rfl
  | some err =>
    -- The secondary's own error is what `Execute` returns.
    refine ⟨fun reports own same => ?_, fun known _ returned same => known returned same⟩
    refine reports ?_ own same
    simp [RailAnswers.mayHaveAccepted, RailAnswers.observe, provesNoEffect]

theorem afterPrimary_exits :
    Meets hearing Exits answers (afterPrimary intent secondary out) := by
  unfold afterPrimary
  split
  · exact exits_unknown (by rw [RailAnswers.secondaryError, unused]; rfl) rfl
  · exact fallBack_exits harmless unused

end

theorem execute_exits (intent : Intent) (primary : Rail) (secondary : Option Rail) :
    Meets hearing Exits {} (execute intent primary secondary) := by
  refine meets_ask_bind.mpr ⟨trivial, fun (out, err) _ => ?_⟩
  cases err with
  | none =>
    dsimp only
    split
    · exact exits_ok rfl
    split
    · exact exits_unknown rfl rfl
    rename_i unaccepted unproved
    refine afterPrimary_exits ?_ rfl
    obtain ⟨known, retryable⟩ := not_or.mp unproved
    simp [RailAnswers.mayHaveAccepted, RailAnswers.observe, provesNoEffect, unaccepted, known,
      not_not.mp retryable]
  | some err =>
    refine meets_ask_bind.mpr ⟨trivial, fun (q, qerr) _ => ?_⟩
    dsimp only
    split
    · exact exits_unknown rfl rfl
    rename_i proved
    obtain ⟨answered, rest⟩ := not_or.mp proved
    obtain ⟨declined, retryable⟩ := not_or.mp rest
    obtain rfl : qerr = none := by simpa using answered
    refine afterPrimary_exits ?_ rfl
    simp [RailAnswers.mayHaveAccepted, RailAnswers.observe, deniesEffect, not_not.mp declined,
      not_not.mp retryable]

theorem join_exits (intent : Intent) (primary : Rail) (secondary : Option Rail) :
    Meets hearing Exits {} (join intent primary secondary) := by
  refine meets_ask_bind.mpr ⟨trivial, fun begun _ => ?_⟩
  match begun with
  | .error err => exact exits_harmless rfl rfl
  | .ok (call, false) =>
    refine meets_ask_bind.mpr ⟨trivial, fun awaited _ => ?_⟩
    cases awaited with
    | completed result err =>
      cases err with
      | none => exact exits_ok rfl
      | some err => exact exits_harmless rfl rfl
    | contextEnded err => exact exits_harmless rfl rfl
  | .ok (call, true) =>
    refine (execute_exits intent primary secondary).bind fun answers (result, err) exits => ?_
    exact meets_ask_bind.mpr ⟨trivial, fun _ _ => exits⟩

/-- What holds at every exit of `Execute`, whatever the rails answer. -/
theorem Execute_exits (intent : Intent) (primary secondary : Option Rail) :
    Meets hearing Exits {} (Execute intent primary secondary) := by
  unfold Execute
  rcases primary with _ | rail
  · exact exits_harmless rfl rfl
  dsimp only
  split
  · exact exits_harmless rfl rfl
  split
  · exact join_exits intent rail secondary
  refine meets_ask_bind.mpr ⟨trivial, fun now _ => ?_⟩
  split
  · exact exits_harmless rfl rfl
  · exact join_exits intent rail secondary

/-! ## The handler -/

structure Handled where
  answers : RailAnswers := {}
  queued : List UnknownState := []

def Handled.observe (handled : Handled) : Event handlerRequests → Handled
  | ⟨.coordinator request, answer⟩ =>
    { handled with answers := handled.answers.observe ⟨request, answer⟩ }
  | ⟨.enqueueUnknown state, _⟩ => { handled with queued := handled.queued ++ [state] }

/-- What the handler has done along a trace. -/
def Handled.along (trace : List (Event handlerRequests)) : Handled := trace.foldl observe {}

/-- The instruction is not dropped: the response reports its acceptance, or it was
handed to the queue of unknown states. -/
def Kept (sequenceID : String) (body : List UInt8) (queued : List UnknownState) :
    HandlerResponse → Prop
  | .accepted _ _ _ => True
  | .serviceUnavailable _ => ∃ state ∈ queued, state.intent = sendIntent sequenceID body

abbrev handling : Contract handlerRequests Handled :=
  ⟨fun _ _ => True, fun _ _ => True, Handled.observe⟩

def Responds (sequenceID : String) (body : List UInt8) (handled : Handled)
    (response : HandlerResponse) : Prop :=
  (handled.answers.mayHaveAccepted = true → Kept sequenceID body handled.queued response) ↔
    SecondaryReports handled.answers

theorem answerExecution_responds (idle : handled.queued = [])
    (exits : Exits handled.answers (result, err)) :
    Meets handling (Responds sequenceID body) handled
      (answerExecution sequenceID body result err) := by
  unfold answerExecution
  rcases err with _ | err
  · exact ⟨fun _ => exits.mp fun _ _ none => absurd none nofun, fun _ _ => trivial⟩
  dsimp only
  split
  · rename_i unknown
    have reports : Reports handled.answers (some err) := fun _ returned same => by
      rw [← Option.some.inj same]
      exact unknown
    refine meets_ask_bind.mpr ⟨trivial, fun queued _ => ?_⟩
    have kept : ∀ text, Responds sequenceID body (handled.observe ⟨.enqueueUnknown
        { intent := sendIntent sequenceID body, primaryRail := yellowCardRail.name,
          observedStatus := .unknown, lastError := err.text }, queued⟩)
        (.serviceUnavailable text) := fun text =>
      ⟨fun _ => exits.mp reports, fun _ _ => ⟨_, List.mem_concat_self, rfl⟩⟩
    split
    · exact kept _
    · exact kept _
  · -- Nothing is queued, so a possible acceptance would be dropped.
    rename_i known
    refine ⟨fun kept => exits.mp fun accepted => ?_, fun reports accepted => ?_⟩
    · obtain ⟨state, member, -⟩ := kept accepted
      rw [idle] at member
      cases member
    · exact absurd (exits.mpr reports accepted err rfl) known

theorem serveCoordinated_responds (sequenceID : String) (body : List UInt8) (secondary : Rail) :
    Meets handling (Responds sequenceID body) {} (serveCoordinated sequenceID body secondary) := by
  have serves : ∀ (request : Request) (answers : RailAnswers) (handled : Handled),
      handled.answers = answers ∧ handled.queued = [] → True →
      Meets handling (fun handled answer => True ∧
          (handled.answers = answers.observe ⟨request, answer⟩ ∧ handled.queued = [])) handled
        (ask (P := handlerRequests) (.coordinator request)) := by
    rintro request answers handled ⟨rfl, idle⟩ -
    exact ⟨trivial, fun answer _ => ⟨trivial, rfl, idle⟩⟩
  have linked := (Execute_exits (sendIntent sequenceID body) (some yellowCardRail)
    (some secondary)).link_related serves (show ({} : Handled).answers = {} ∧ _ from ⟨rfl, rfl⟩)
  refine linked.bind fun handled (result, err) exits => ?_
  obtain ⟨_, ⟨rfl, idle⟩, exits⟩ := exits
  exact answerExecution_responds idle exits

/-! ## The law, and where it fails -/

/-- The primary denies any effect and the secondary's `Submit` times out. -/
def timedOutSecondary : (request : Request) → request.Answer
  | .now => 0
  | .begin _ _ => .ok (0, true)
  | .await _ => .contextEnded .contextCanceled
  | .submit .primary _ => (⟨"", .failed, true, "insufficient funds"⟩, none)
  | .submit .secondary _ => ({}, some .contextDeadlineExceeded)
  | .query _ => ({}, none)
  | .finish _ _ _ _ => ()

def timedOutHandler : (request : HandlerRequest) → request.Answer
  | .coordinator request => timedOutSecondary request
  | .enqueueUnknown _ => none

theorem timedOutSecondary_value :
    (Execute (sendIntent "send-1" [1]) (some yellowCardRail) (some ⟨"bank"⟩)).value
      timedOutSecondary = ({}, some .contextDeadlineExceeded) := by
  decide

theorem timedOutHandler_value :
    (serveCoordinated "send-1" [1] ⟨"bank"⟩).value timedOutHandler =
      .serviceUnavailable "provider Send request was not accepted" := by
  decide

end UmojaFlowOS.Multirail
