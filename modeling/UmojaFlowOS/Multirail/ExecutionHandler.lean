import UmojaFlowOS.Go.Errors
import UmojaFlowOS.Multirail.UnknownState

/-!
# The Yellow Card execution handler

The coordinated branch of `YellowCardExecutionHandler.ServeHTTP`
(`services/payment-engine/internal/provider/yellowcard_execution_handler.go`), from
the decoded `Send` on. `Validate` has made sure that the secondary rail and the
store of unknown states are there. The handler decides by `errors.Is` whether an
instruction is queued for reconciliation.
-/

namespace UmojaFlowOS.Multirail

open Interaction
open Program (ask)

/-- A request of the handler: one of `Execute`, or `EnqueueUnknown`. -/
inductive HandlerRequest where
  | coordinator (request : Request)
  | enqueueUnknown (state : UnknownState)

abbrev HandlerRequest.Answer : HandlerRequest → Type
  | coordinator request => request.Answer
  | enqueueUnknown _ => Option GoError

abbrev handlerRequests : Interface := ⟨HandlerRequest, HandlerRequest.Answer⟩

/-- The response: a status code with the error text, or the body of a 202. -/
inductive HandlerResponse where
  | accepted (providerReference providerStatus sequenceID : String)
  | serviceUnavailable (text : String)
  deriving DecidableEq

section
variable (sequenceID : String)

section
variable (body : List UInt8)

/-- The intent of a `Send` (line 123). -/
def sendIntent : Intent where
  id := sequenceID
  idempotencyKey := sequenceID
  payload := body

/-- `YellowCardMultiRail`, by its name (yellowcard_multirail.go:20). -/
def yellowCardRail : Rail := ⟨"yellow_card"⟩

/-- What the handler does with the coordinator's answer
(lines 125-137). -/
def answerExecution (result : Result)
    (executeErr : Option RailError) : Program handlerRequests HandlerResponse := do
  match executeErr with
  | none => return .accepted result.providerRef result.status.text sequenceID
  | some err =>
    if err.isUnknownOutcome then
      let queued ← ask (P := handlerRequests) (.enqueueUnknown {
        intent := sendIntent sequenceID body
        primaryRail := yellowCardRail.name
        observedStatus := .unknown
        lastError := err.text })
      if queued.isSome then
        return .serviceUnavailable
          "provider outcome unresolved and reconciliation queue unavailable"
      else
        return .serviceUnavailable "provider outcome unresolved; reconciliation required"
    else
      return .serviceUnavailable "provider Send request was not accepted"

/-- The coordinated branch (lines 115-138). -/
def serveCoordinated (secondary : Rail) :
    Program handlerRequests HandlerResponse := do
  let (result, executeErr) ←
    (Execute (sendIntent sequenceID body) (some yellowCardRail) (some secondary)).link
      fun request => ask (P := handlerRequests) (.coordinator request)
  answerExecution sequenceID body result executeErr

end

end

end UmojaFlowOS.Multirail
