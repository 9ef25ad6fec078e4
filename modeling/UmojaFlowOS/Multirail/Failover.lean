import UmojaFlowOS.Crypto.Sha256
import UmojaFlowOS.Interaction.Concurrent

/-!
# The multirail coordinator of the payment engine

`services/payment-engine/multirail/failover.go`. `Execute` runs the failover
decision at most once per idempotency key: the first caller of a key leads, callers
that come while it runs wait on its `executionCall`, and later callers are given
the remembered result or error. Rails and clocks answer anything; `begin` and
`finish` hold the coordinator's mutex and are one step each.
-/

namespace UmojaFlowOS.Multirail

open Crypto Interaction

/-- A `time.Time` as nanoseconds since Go's zero time. -/
abbrev Time := Int

/-- `Status` (lines 12-22). The type is a string, so other texts are values too. -/
inductive Status where
  | prepared
  | submitted
  | pending
  | settled
  | held
  | failed
  | unknown
  | other (text : String)
  deriving DecidableEq

/-- `Intent` (lines 24-31). -/
structure Intent where
  id : String
  idempotencyKey : String
  asset : String := ""
  fiat : String := ""
  amountMinor : Int := 0
  expiresAt : Time := 0
  payload : List UInt8 := []
  deriving DecidableEq

/-- `Result` (lines 32-36); the default is Go's zero value. -/
structure Result where
  intentID : String := ""
  rail : String := ""
  providerRef : String := ""
  status : Status := .other ""
  reason : String := ""
  deriving DecidableEq

/-- `Submission` (lines 37-42). -/
structure Submission where
  providerRef : String := ""
  status : Status := .other ""
  retryableWithoutBusinessEffect : Bool := false
  reason : String := ""

/-- The errors of the package, those of a context, and what a rail makes up:
`unknownOutcome` is recognised by identity, also when another error wraps it. -/
inductive RailError where
  | unknownOutcome
  | expired
  | idempotencyConflict
  | contextCanceled
  | contextDeadlineExceeded
  | new (text : String)
  | wrap (before : String) (inner : RailError) (after : String)
  deriving DecidableEq

namespace RailError

def text : RailError → String
  | unknownOutcome => "provider outcome is unknown; fallback prohibited"
  | expired => "payment intent expired"
  | idempotencyConflict => "idempotency key is bound to a different payment intent"
  | contextCanceled => "context canceled"
  | contextDeadlineExceeded => "context deadline exceeded"
  | new text => text
  | wrap before inner after => before ++ inner.text ++ after

/-- `errors.Is(err, ErrUnknownOutcome)`. -/
def isUnknownOutcome : RailError → Bool
  | unknownOutcome => true
  | wrap _ inner _ => inner.isUnknownOutcome
  | _ => false

end RailError

/-- What the coordinator reads of a `Rail` before it calls it: its `Name()`. -/
structure Rail where
  name : String
  deriving DecidableEq

/-- As which of its two rail arguments `Execute` uses a rail. -/
inductive Role where
  | primary
  | secondary
  deriving DecidableEq

/-! ## The calls of one `Execute` -/

/-- How the `select` on `call.done` and `ctx.Done()` ends (lines 98-103). -/
inductive Awaited where
  | completed (result : Result) (err : Option RailError)
  | contextEnded (err : RailError)

/-- A request of `Execute`. An `*executionCall` is known by its number. -/
inductive Request where
  | now
  | begin (key : String) (digest : List UInt8)
  | await (call : Nat)
  | submit (role : Role) (intent : Intent)
  | query (intent : Intent)
  | finish (key : String) (call : Nat) (result : Result) (err : Option RailError)

/-- `begin` answers with the call and whether the caller leads it. -/
abbrev Request.Answer : Request → Type
  | now => Time
  | begin _ _ => Except RailError (Nat × Bool)
  | await _ => Awaited
  | submit _ _ => Submission × Option RailError
  | query _ => Submission × Option RailError
  | finish _ _ _ _ => Unit

abbrev requests : Interface := ⟨Request, Request.Answer⟩

abbrev Execution (α : Type) := Program requests α

open Program (ask)

/-- A status with which a rail has taken the instruction. -/
def Status.accepted : Status → Bool
  | .settled | .pending | .submitted => true
  | _ => false

/-- A status with which a rail says that it did not carry the instruction out. -/
def Status.declined : Status → Bool
  | .failed | .held => true
  | _ => false

section
variable (intent : Intent)

/-- `execute` after the primary is known to have had no effect (lines 171-184). -/
def fallBack (secondary : Option Rail) :
    Execution (Result × Option RailError) := do
  match secondary with
  | none =>
    return ({}, some (.new "secondary rail is required after safe primary failure"))
  | some rail =>
    let (alt, err) ← ask (P := requests) (.submit .secondary intent)
    match err with
    | some err => return ({}, some err)
    | none =>
      if alt.status = .unknown ∨ ¬ alt.status.accepted then
        return ({}, some .unknownOutcome)
      else
        return (⟨intent.id, rail.name, alt.providerRef, alt.status,
          "secondary rail selected after safe primary non-submission"⟩, none)

/-- The check between the two rails (lines 171-173). -/
def afterPrimary (secondary : Option Rail) (out : Submission) :
    Execution (Result × Option RailError) :=
  if ¬ out.status.declined ∧ ¬ out.retryableWithoutBusinessEffect then
    return ({}, some (.wrap "primary not safely retryable: " .unknownOutcome ""))
  else
    fallBack intent secondary

/-- `execute` (lines 155-185). -/
def execute (primary : Rail) (secondary : Option Rail) :
    Execution (Result × Option RailError) := do
  let (out, err) ← ask (P := requests) (.submit .primary intent)
  match err with
  | none =>
    if out.status.accepted then
      return (⟨intent.id, primary.name, out.providerRef, out.status, out.reason⟩, none)
    else if out.status = .unknown ∨ ¬ out.retryableWithoutBusinessEffect then
      return ({}, some .unknownOutcome)
    else
      afterPrimary intent secondary out
  | some _ =>
    let (q, qerr) ← ask (P := requests) (.query intent)
    if qerr.isSome ∨ ¬ q.status.declined ∨ ¬ q.retryableWithoutBusinessEffect then
      return ({}, some .unknownOutcome)
    else
      afterPrimary intent secondary q

/-- `Execute` from `begin` on (lines 92-109). -/
def join (primary : Rail) (secondary : Option Rail) :
    Execution (Result × Option RailError) := do
  let begun ← ask (P := requests) (.begin intent.idempotencyKey (sha256 intent.payload))
  match begun with
  | .error err => return ({}, some err)
  | .ok (call, false) =>
    let awaited ← ask (P := requests) (.await call)
    match awaited with
    | .completed result err => return (result, err)
    | .contextEnded err => return ({}, some err)
  | .ok (call, true) =>
    let (result, err) ← execute intent primary secondary
    ask (P := requests) (.finish intent.idempotencyKey call result err)
    return (result, err)

/-- `Execute` (lines 78-109). The clock is read only if the intent expires. -/
def Execute (primary secondary : Option Rail) :
    Execution (Result × Option RailError) := do
  match primary with
  | none => return ({}, some (.new "primary rail is required"))
  | some primary =>
    if intent.id = "" ∨ intent.idempotencyKey = "" then
      return ({}, some (.new "intent and idempotency key are required"))
    else if intent.expiresAt = 0 then
      join intent primary secondary
    else
      let now ← ask (P := requests) .now
      if now > intent.expiresAt then
        return ({}, some .expired)
      else
        join intent primary secondary

end

/-! ## The coordinator's state -/

/-- `executionCall` (lines 50-55); `done` says whether the channel is closed. -/
structure ExecutionCall where
  digest : List UInt8 := []
  done : Bool := false
  result : Result := {}
  err : Option RailError := none

/-- `Coordinator` (lines 57-63), with the calls allocated so far. -/
structure Coordinator where
  records : String → Option Result := fun _ => none
  failures : String → Option RailError := fun _ => none
  bindings : String → Option (List UInt8) := fun _ => none
  inflight : String → Option Nat := fun _ => none
  calls : List ExecutionCall := []

namespace Coordinator

/-- `begin` once no different payload is bound: the key is known (lines 117-127). -/
def known (c : Coordinator) (key : String) : Option ((Nat × Bool) × Coordinator) :=
  match c.records key with
  | some old =>
    some ((c.calls.length, false), { c with calls := c.calls ++ [{ done := true, result := old }] })
  | none =>
    match c.failures key with
    | some oldErr =>
      some ((c.calls.length, false),
        { c with calls := c.calls ++ [{ done := true, err := some oldErr }] })
    | none => (c.inflight key).map fun call => ((call, false), c)

/-- `begin` (lines 111-132). -/
def begin (c : Coordinator) (key : String) (digest : List UInt8) :
    Except RailError (Nat × Bool) × Coordinator :=
  if (c.bindings key).any (· ≠ digest) then
    (.error .idempotencyConflict, c)
  else
    match c.known key with
    | some (answer, c) => (.ok answer, c)
    | none => (.ok (c.calls.length, true),
        { c with
          bindings := Function.update c.bindings key (some digest)
          calls := c.calls ++ [{ digest := digest }]
          inflight := Function.update c.inflight key (some c.calls.length) })

/-- `finish` (lines 140-153). -/
def finish (c : Coordinator) (key : String) (call : Nat) (result : Result)
    (err : Option RailError) : Coordinator :=
  { c with
    calls := c.calls.modify call fun old => { old with done := true, result := result, err := err }
    records := if err = none then Function.update c.records key (some result) else c.records
    failures := if err = none then c.failures else Function.update c.failures key err
    inflight := Function.update c.inflight key none }

end Coordinator

/-! ## Callers over one coordinator -/

/-- A call of `Execute`. No context stands for `nil` and for the background context,
which never end; several callers may share one. -/
structure Caller where
  ctx : Option Nat := none
  intent : Intent
  primary : Option Rail
  secondary : Option Rail
  deriving DecidableEq

structure Callers where
  coordinator : Coordinator := {}
  ended : Nat → Option RailError := fun _ => none

/-- What is left open when a request is answered. -/
inductive Choice where
  | proceeds
  | clock (now : Time)
  | rail (submission : Submission) (err : Option RailError)
  | contextDone

/-- One request of a caller. A waiting caller proceeds only when the call is done,
and gives up only when its own context has ended. -/
def Callers.exec (s : Callers) (_ : Nat) (caller : Caller) :
    (request : Request) → Choice → Option (request.Answer × Callers)
  | .now, .clock now => some (now, s)
  | .begin key digest, .proceeds =>
    let (answer, coordinator) := s.coordinator.begin key digest
    some (answer, { s with coordinator := coordinator })
  | .await call, .proceeds =>
    match s.coordinator.calls[call]? with
    | some ⟨_, true, result, err⟩ => some (.completed result err, s)
    | _ => none
  | .await _, .contextDone =>
    (caller.ctx.bind s.ended).map fun err => (.contextEnded err, s)
  | .submit _ _, .rail submission err => some ((submission, err), s)
  | .query _, .rail submission err => some ((submission, err), s)
  | .finish key call result err, .proceeds =>
    some ((), { s with coordinator := s.coordinator.finish key call result err })
  | _, _ => none

/-- The context of some callers ends, once. -/
structure ContextEnd where
  ctx : Nat
  err : RailError

/-- Any number of callers of one coordinator. -/
def callers :
    Machine requests Caller (Result × Option RailError) Callers Choice ContextEnd where
  spawn _ caller := some (Execute caller.intent caller.primary caller.secondary)
  exec := Callers.exec
  env s event :=
    if s.ended event.ctx = none then
      some { s with ended := Function.update s.ended event.ctx (some event.err) }
    else none

/-- `NewCoordinator()` before anyone has called it (lines 65-72). -/
def newCoordinator : Config requests Caller (Result × Option RailError) Callers := ⟨{}, []⟩

end UmojaFlowOS.Multirail
