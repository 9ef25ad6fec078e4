import UmojaFlowOS.Multirail.Failover

/-!
# The coordinator's counterparts in Rust, TypeScript and Python

`services/ledger-gateway/src/multirail_failover.rs`,
`apps/control-plane/server/multiRailFailover.ts` and
`services/risk-compliance-core/multirail_failover.py`. Each looks the key up, asks
the rails, and remembers an accepted result; the map is locked, or untouched by
other code, only during the look-up and the recording.
-/

namespace UmojaFlowOS.Multirail

open Interaction
open Program (ask)

/-- `Status` of the three (multirail_failover.rs:5-12). -/
inductive PeerStatus where
  | submitted
  | pending
  | settled
  | failed
  | held
  | unknown

def PeerStatus.accepted : PeerStatus → Bool
  | .submitted | .pending | .settled => true
  | _ => false

def PeerStatus.declined : PeerStatus → Bool
  | .failed | .held => true
  | _ => false

/-- `Intent` of the three (multirail_failover.rs:14-17). -/
structure PeerIntent where
  id : String
  idempotencyKey : String

/-- `Submission` of the three (multirail_failover.rs:19-23); a missing `safeToRetry`
of TypeScript is as good as `false`. -/
structure Reply where
  status : PeerStatus
  reference : Option String := none
  safeToRetry : Bool := false

/-- How a rail call fails: Python tells a time-out from other exceptions, and a rail
may itself raise the coordinator's error for unknown outcomes. -/
inductive Fault where
  | timeout
  | unknownOutcome
  | other (text : String)

/-- How `execute` fails: its own check of the intent, its own error for unknown
outcomes, or the fault of a rail handed on. -/
inductive PeerError where
  | invalid (text : String)
  | unknownOutcome (text : String)
  | rail (fault : Fault)

/-- A request of `execute`, with `ρ` for what is remembered. -/
inductive PeerRequest (ρ : Type) where
  | lookup (key : String)
  | submit (role : Role) (intent : PeerIntent)
  | query (intent : PeerIntent)
  | record (key : String) (result : ρ)

abbrev PeerRequest.Answer {ρ : Type} : PeerRequest ρ → Type
  | lookup _ => Option ρ
  | submit _ _ => Except Fault Reply
  | query _ => Except Fault Reply
  | record _ _ => ρ

abbrev peerRequests (ρ : Type) : Interface := ⟨PeerRequest ρ, PeerRequest.Answer⟩

abbrev PeerExecution (ρ α : Type) := Program (peerRequests ρ) α

/-! ## Rust -/

/-- `ResultRecord` (multirail_failover.rs:25-29). -/
structure ResultRecord where
  rail : String
  reference : Option String
  status : PeerStatus

/-- `execute` from `if !safe` on (multirail_failover.rs:91-108). -/
def rustFallBack (i : PeerIntent) (s : Rail) (safe : Bool) :
    PeerExecution ResultRecord (Except PeerError ResultRecord) := do
  if !safe then
    return .error (.unknownOutcome "unknown primary outcome; fallback prohibited")
  else
    match ← ask (P := peerRequests ResultRecord) (.submit .secondary i) with
    | .error fault => return .error (.rail fault)
    | .ok x =>
      if !x.status.accepted then
        return .error (.unknownOutcome "secondary outcome not safely accepted")
      else
        let kept ← ask (P := peerRequests ResultRecord)
          (.record i.idempotencyKey ⟨s.name, x.reference, x.status⟩)
        return .ok kept

/-- `Coordinator::execute` (multirail_failover.rs:50-109). -/
def rustExecute (i : PeerIntent) (p s : Rail) :
    PeerExecution ResultRecord (Except PeerError ResultRecord) := do
  if i.id = "" ∨ i.idempotencyKey = "" then
    return .error (.invalid "intent and idempotency key required")
  else
    match ← ask (P := peerRequests ResultRecord) (.lookup i.idempotencyKey) with
    | some r => return .ok r
    | none =>
      match ← ask (P := peerRequests ResultRecord) (.submit .primary i) with
      | .ok x =>
        if x.status.accepted then
          let kept ← ask (P := peerRequests ResultRecord)
            (.record i.idempotencyKey ⟨p.name, x.reference, x.status⟩)
          return .ok kept
        else
          rustFallBack i s (x.safeToRetry && x.status.declined)
      | .error _ =>
        match ← ask (P := peerRequests ResultRecord) (.query i) with
        | .ok x => rustFallBack i s (x.safeToRetry && x.status.declined)
        | .error _ => rustFallBack i s false

/-! ## TypeScript and Python -/

/-- The entry of the TypeScript map (multiRailFailover.ts:6) and of the Python
dictionary (multirail_failover.py:18). -/
structure PeerRecord where
  rail : String
  submission : Reply

/-- `execute` once `first` is known (multiRailFailover.ts:14-18,
multirail_failover.py:27-31); the two differ in the text of the first error. -/
def decideOn (unknownText : String) (i : PeerIntent) (p s : Rail) (first : Reply) :
    PeerExecution PeerRecord (Except PeerError PeerRecord) := do
  if first.status.accepted then
    let kept ← ask (P := peerRequests PeerRecord) (.record i.idempotencyKey ⟨p.name, first⟩)
    return .ok kept
  else if ¬ (first.safeToRetry ∧ first.status.declined) then
    return .error (.unknownOutcome unknownText)
  else
    match ← ask (P := peerRequests PeerRecord) (.submit .secondary i) with
    | .error fault => return .error (.rail fault)
    | .ok second =>
      if ¬ second.status.accepted then
        return .error (.unknownOutcome "secondary outcome not accepted")
      else
        let kept ← ask (P := peerRequests PeerRecord) (.record i.idempotencyKey ⟨s.name, second⟩)
        return .ok kept

/-- `MultiRailCoordinator.execute` (multiRailFailover.ts:7-19). -/
def typescriptExecute (i : PeerIntent) (p s : Rail) :
    PeerExecution PeerRecord (Except PeerError PeerRecord) := do
  if i.id = "" ∨ i.idempotencyKey = "" then
    return .error (.invalid "intent and idempotency key required")
  else
    match ← ask (P := peerRequests PeerRecord) (.lookup i.idempotencyKey) with
    | some cached => return .ok cached
    | none =>
      match ← ask (P := peerRequests PeerRecord) (.submit .primary i) with
      | .ok first => decideOn "provider outcome unknown; fallback prohibited" i p s first
      | .error _ =>
        match ← ask (P := peerRequests PeerRecord) (.query i) with
        | .ok first => decideOn "provider outcome unknown; fallback prohibited" i p s first
        | .error _ => return .error (.unknownOutcome "provider outcome unknown; fallback prohibited")

/-- `Coordinator.execute` (multirail_failover.py:19-31). Only a `TimeoutError` leads
to a query; another exception leaves `execute`. -/
def pythonExecute (i : PeerIntent) (p s : Rail) :
    PeerExecution PeerRecord (Except PeerError PeerRecord) := do
  if i.id = "" ∨ i.idempotencyKey = "" then
    return .error (.invalid "intent and idempotency key required")
  else
    match ← ask (P := peerRequests PeerRecord) (.lookup i.idempotencyKey) with
    | some known => return .ok known
    | none =>
      match ← ask (P := peerRequests PeerRecord) (.submit .primary i) with
      | .ok first => decideOn "primary outcome unknown; fallback prohibited" i p s first
      | .error .timeout =>
        match ← ask (P := peerRequests PeerRecord) (.query i) with
        | .ok first => decideOn "primary outcome unknown; fallback prohibited" i p s first
        | .error _ => return .error (.unknownOutcome "primary outcome unknown")
      | .error fault => return .error (.rail fault)

/-! ## Callers over one map -/

structure PeerCaller where
  intent : PeerIntent
  primary : Rail
  secondary : Rail

/-- One request. The look-up and the recording are atomic; a recorded key keeps its
first entry (multirail_failover.rs:110-113). A rail answers what the choice gives. -/
def servePeer {ρ : Type} (records : String → Option ρ) (_ : Nat) (_ : PeerCaller) :
    (request : PeerRequest ρ) → Option (Except Fault Reply) →
      Option (request.Answer × (String → Option ρ))
  | .lookup key, none => some (records key, records)
  | .record key result, none =>
    match records key with
    | some old => some (old, records)
    | none => some (result, Function.update records key (some result))
  | .submit _ _, some reply => some (reply, records)
  | .query _, some reply => some (reply, records)
  | _, _ => none

/-- Any number of callers of one coordinator. -/
def peers {ρ : Type} (execute : PeerIntent → Rail → Rail → PeerExecution ρ (Except PeerError ρ)) :
    Machine (peerRequests ρ) PeerCaller (Except PeerError ρ) (String → Option ρ)
      (Option (Except Fault Reply)) Empty where
  spawn _ caller := some (execute caller.intent caller.primary caller.secondary)
  exec := servePeer
  env _ event := nomatch event

def newPeer {ρ : Type} :
    Config (peerRequests ρ) PeerCaller (Except PeerError ρ) (String → Option ρ) :=
  ⟨fun _ => none, []⟩

end UmojaFlowOS.Multirail
