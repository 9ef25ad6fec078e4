import UmojaFlowOS.Multirail.Counterparts

/-!
# Four coordinators on one behaviour of the rails

What the Go, Rust, TypeScript and Python coordinators do on a fresh key is a policy
over the evidence of the rails' replies. The four policies differ only in what they
make of a failed `submit` of the primary.
-/

namespace UmojaFlowOS.Multirail

open Interaction

/-! ## One behaviour, four languages -/

structure RailBehaviour where
  primary : Except Fault Reply
  query : Except Fault Reply
  secondary : Except Fault Reply

inductive Language where
  | go
  | rust
  | typescript
  | python

/-- The outcome: accepted by a rail, the coordinator's error for unknown outcomes, or
another error. -/
inductive Decision where
  | accepted (rail : String)
  | unknown
  | failed
  deriving DecidableEq

structure Course where
  submits : List Role
  decision : Decision

def PeerStatus.toGo : PeerStatus → Status
  | .submitted => .submitted
  | .pending => .pending
  | .settled => .settled
  | .failed => .failed
  | .held => .held
  | .unknown => .unknown

def Fault.toGo : Fault → RailError
  | .timeout => .contextDeadlineExceeded
  | .unknownOutcome => .unknownOutcome
  | .other text => .new text

def goReply : Except Fault Reply → Submission × Option RailError
  | .ok reply => (⟨reply.reference.getD "", reply.status.toGo, reply.safeToRetry, ""⟩, none)
  | .error fault => ({}, some fault.toGo)

/-- The answers on a fresh key: the caller leads. -/
def goAnswer (now : Time) (b : RailBehaviour) : (request : Request) → request.Answer
  | .now => now
  | .begin _ _ => .ok (0, true)
  | .await _ => .contextEnded .contextCanceled
  | .submit .primary _ => goReply b.primary
  | .submit .secondary _ => goReply b.secondary
  | .query _ => goReply b.query
  | .finish _ _ _ _ => ()

/-- The answers on a fresh key: the look-up finds nothing, and what is recorded is
kept. -/
def peerAnswer {ρ : Type} (b : RailBehaviour) : (request : PeerRequest ρ) → request.Answer
  | .lookup _ => none
  | .submit .primary _ => b.primary
  | .submit .secondary _ => b.secondary
  | .query _ => b.query
  | .record _ result => result

def goSubmits (event : Event requests) : Option Role :=
  match event.call with
  | .submit role _ => some role
  | _ => none

def peerSubmits {ρ : Type} (event : Event (peerRequests ρ)) : Option Role :=
  match event.call with
  | .submit role _ => some role
  | _ => none

def goDecision : Result × Option RailError → Decision
  | (result, none) => .accepted result.rail
  | (_, some err) => if err.isUnknownOutcome then .unknown else .failed

/-- A fault of a rail that is itself the error for unknown outcomes counts as such. -/
def peerDecision {ρ : Type} (rail : ρ → String) : Except PeerError ρ → Decision
  | .ok result => .accepted (rail result)
  | .error (.unknownOutcome _) => .unknown
  | .error (.rail .unknownOutcome) => .unknown
  | .error _ => .failed

def goCourse (intent : Intent) (p s : Rail) (now : Time) (b : RailBehaviour) : Course :=
  ⟨((Execute intent (some p) (some s)).trace (goAnswer now b)).filterMap goSubmits,
    goDecision ((Execute intent (some p) (some s)).value (goAnswer now b))⟩

def peerCourse {ρ : Type} (rail : ρ → String) (program : PeerExecution ρ (Except PeerError ρ))
    (b : RailBehaviour) : Course :=
  ⟨(program.trace (peerAnswer b)).filterMap peerSubmits,
    peerDecision rail (program.value (peerAnswer b))⟩

def course (intent : Intent) (p s : Rail) (now : Time) (b : RailBehaviour) : Language → Course
  | .go => goCourse intent p s now b
  | .rust => peerCourse ResultRecord.rail (rustExecute ⟨intent.id, intent.idempotencyKey⟩ p s) b
  | .typescript =>
    peerCourse PeerRecord.rail (typescriptExecute ⟨intent.id, intent.idempotencyKey⟩ p s) b
  | .python => peerCourse PeerRecord.rail (pythonExecute ⟨intent.id, intent.idempotencyKey⟩ p s) b

/-! ## The policies -/

/-- What a reply says about the instruction. -/
inductive Evidence where
  | accepted
  | denied
  | unclear
  deriving DecidableEq

def Reply.evidence (reply : Reply) : Evidence :=
  if reply.status.accepted then .accepted
  else if reply.safeToRetry ∧ reply.status.declined then .denied
  else .unclear

def afterDenial (s : Rail) (b : RailBehaviour) : Course where
  submits := [.primary, .secondary]
  decision :=
    match b.secondary with
    | .ok reply => if reply.status.accepted then .accepted s.name else .unknown
    | .error .unknownOutcome => .unknown
    | .error _ => .failed

/-- The primary's reply decides. -/
def onReply (p s : Rail) (b : RailBehaviour) (reply : Reply) : Course :=
  match reply.evidence with
  | .accepted => ⟨[.primary], .accepted p.name⟩
  | .denied => afterDenial s b
  | .unclear => ⟨[.primary], .unknown⟩

/-- Go and Rust: after a failed `submit`, a query can only clear the way for the
secondary. -/
def strictPolicy (p s : Rail) (b : RailBehaviour) : Course :=
  match b.primary with
  | .ok reply => onReply p s b reply
  | .error _ =>
    match b.query with
    | .ok reply => if reply.evidence = .denied then afterDenial s b else ⟨[.primary], .unknown⟩
    | .error _ => ⟨[.primary], .unknown⟩

/-- TypeScript: after a failed `submit`, the query's reply stands for it. -/
def queryingPolicy (p s : Rail) (b : RailBehaviour) : Course :=
  match b.primary with
  | .ok reply => onReply p s b reply
  | .error _ =>
    match b.query with
    | .ok reply => onReply p s b reply
    | .error _ => ⟨[.primary], .unknown⟩

/-- Python: so it is after a time-out; another fault is handed on. -/
def timeoutPolicy (p s : Rail) (b : RailBehaviour) : Course :=
  match b.primary with
  | .error .unknownOutcome => ⟨[.primary], .unknown⟩
  | .error (.other _) => ⟨[.primary], .failed⟩
  | _ => queryingPolicy p s b

section
variable {intent : Intent} {p s : Rail} {now : Time} {b : RailBehaviour}

/-- The intent passes the checks of all four. -/
def Acceptable (intent : Intent) (now : Time) : Prop :=
  intent.id ≠ "" ∧ intent.idempotencyKey ≠ "" ∧ (intent.expiresAt = 0 ∨ now ≤ intent.expiresAt)

/-! ## Each coordinator follows its policy

A reply counts by its status and by whether it is safe to retry. Once these are known, and what
the secondary does where it is asked, both sides can be evaluated. -/

theorem joinCourse_eq :
    (⟨((join intent p (some s)).trace (goAnswer now b)).filterMap goSubmits,
      goDecision ((join intent p (some s)).value (goAnswer now b))⟩ : Course) =
      strictPolicy p s b := by
  obtain ⟨primary, query, secondary⟩ := b
  rcases primary with fault | ⟨status, reference, safe⟩
  · rcases query with fault | ⟨status, reference, safe⟩
    · rfl
    cases status <;> cases safe <;> try rfl
    all_goals rcases secondary with fault | ⟨status, reference, safe⟩
    all_goals first | cases fault <;> rfl | cases status <;> rfl
  cases status <;> cases safe <;> try rfl
  all_goals rcases secondary with fault | ⟨status, reference, safe⟩
  all_goals first | cases fault <;> rfl | cases status <;> rfl

theorem goCourse_eq (acceptable : Acceptable intent now) :
    goCourse intent p s now b = strictPolicy p s b := by
  obtain ⟨id, key, fresh⟩ := acceptable
  unfold goCourse Execute
  dsimp only
  rw [if_neg (not_or.mpr ⟨id, key⟩)]
  split
  · exact joinCourse_eq
  rename_i expires
  have early : ¬ now > intent.expiresAt := Int.not_lt.mpr (fresh.resolve_left expires)
  show Course.mk (((if now > intent.expiresAt then _ else _ : Execution _).trace _).filterMap _)
    (goDecision ((if now > intent.expiresAt then _ else _ : Execution _).value _)) = _
  rw [if_neg early]
  exact joinCourse_eq

theorem rustCourse_eq (id : i.id ≠ "") (key : i.idempotencyKey ≠ "") :
    peerCourse ResultRecord.rail (rustExecute i p s) b = strictPolicy p s b := by
  rw [rustExecute, if_neg (not_or.mpr ⟨id, key⟩)]
  obtain ⟨primary, query, secondary⟩ := b
  rcases primary with fault | ⟨status, reference, safe⟩
  · rcases query with fault | ⟨status, reference, safe⟩
    · rfl
    cases status <;> cases safe <;> try rfl
    all_goals rcases secondary with fault | ⟨status, reference, safe⟩
    all_goals first | cases fault <;> rfl | cases status <;> rfl
  cases status <;> cases safe <;> try rfl
  all_goals rcases secondary with fault | ⟨status, reference, safe⟩
  all_goals first | cases fault <;> rfl | cases status <;> rfl

theorem decideOnCourse_eq :
    (⟨.primary :: (peerCourse PeerRecord.rail (decideOn text i p s first) b).submits,
      (peerCourse PeerRecord.rail (decideOn text i p s first) b).decision⟩ : Course) =
      onReply p s b first := by
  obtain ⟨primary, query, secondary⟩ := b
  obtain ⟨status, reference, safe⟩ := first
  cases status <;> cases safe <;> try rfl
  all_goals rcases secondary with fault | ⟨status, reference, safe⟩
  all_goals first | cases fault <;> rfl | cases status <;> rfl

theorem typescriptCourse_eq (id : i.id ≠ "") (key : i.idempotencyKey ≠ "") :
    peerCourse PeerRecord.rail (typescriptExecute i p s) b = queryingPolicy p s b := by
  rw [typescriptExecute, if_neg (not_or.mpr ⟨id, key⟩)]
  obtain ⟨primary, query, secondary⟩ := b
  rcases primary with fault | first
  · rcases query with fault | first
    · rfl
    · exact decideOnCourse_eq (b := ⟨.error fault, .ok first, secondary⟩)
  · exact decideOnCourse_eq (b := ⟨.ok first, query, secondary⟩)

theorem pythonCourse_eq (id : i.id ≠ "") (key : i.idempotencyKey ≠ "") :
    peerCourse PeerRecord.rail (pythonExecute i p s) b = timeoutPolicy p s b := by
  rw [pythonExecute, if_neg (not_or.mpr ⟨id, key⟩)]
  obtain ⟨primary, query, secondary⟩ := b
  rcases primary with fault | first
  · cases fault with
    | timeout =>
      rcases query with fault | first
      · rfl
      · exact decideOnCourse_eq (b := ⟨.error .timeout, .ok first, secondary⟩)
    | unknownOutcome | other => rfl
  · exact decideOnCourse_eq (b := ⟨.ok first, query, secondary⟩)

/-! ## Where the four agree -/

/-- The primary replies; or it times out and the query does not report an
acceptance; or it raises the error for unknown outcomes itself and the query is of
no help. -/
def RailBehaviour.harmonious (b : RailBehaviour) : Bool :=
  match b.primary, b.query with
  | .ok _, _ => true
  | .error .timeout, .ok reply => reply.evidence ≠ .accepted
  | .error .timeout, .error _ => true
  | .error .unknownOutcome, .ok reply => reply.evidence = .unclear
  | .error .unknownOutcome, .error _ => true
  | .error (.other _), _ => false

/-- The three policies agree exactly on harmonious behaviours. -/
theorem policies_agree_iff :
    (strictPolicy p s b = queryingPolicy p s b ∧ strictPolicy p s b = timeoutPolicy p s b) ↔
      b.harmonious = true := by
  obtain ⟨primary, query, secondary⟩ := b
  match primary, query with
  | .ok reply, query => simp [strictPolicy, queryingPolicy, timeoutPolicy, RailBehaviour.harmonious]
  | .error .timeout, .error fault =>
    simp [strictPolicy, queryingPolicy, timeoutPolicy, RailBehaviour.harmonious]
  | .error .timeout, .ok reply =>
    cases evidence : reply.evidence <;>
      simp [strictPolicy, queryingPolicy, timeoutPolicy, RailBehaviour.harmonious, onReply, evidence]
  | .error .unknownOutcome, .error fault =>
    simp [strictPolicy, queryingPolicy, timeoutPolicy, RailBehaviour.harmonious]
  | .error .unknownOutcome, .ok reply =>
    cases evidence : reply.evidence <;>
      simp [strictPolicy, queryingPolicy, timeoutPolicy, RailBehaviour.harmonious, onReply, evidence,
        afterDenial]
  | .error (.other text), .error fault =>
    simp [strictPolicy, queryingPolicy, timeoutPolicy, RailBehaviour.harmonious]
  | .error (.other text), .ok reply =>
    cases evidence : reply.evidence <;>
      simp [strictPolicy, queryingPolicy, timeoutPolicy, RailBehaviour.harmonious, onReply, evidence,
        afterDenial]

/-- For every intent that all four accept and every behaviour of the rails: the four
coordinators submit to the same rails in the same order and decide alike exactly if
the behaviour is one of those above. -/
theorem coordinators_agree_iff (acceptable : Acceptable intent now) (p s : Rail)
    (b : RailBehaviour) :
    (∀ first second, course intent p s now b first = course intent p s now b second) ↔
      b.harmonious = true := by
  have go : course intent p s now b .go = strictPolicy p s b := goCourse_eq acceptable
  have rust : course intent p s now b .rust = strictPolicy p s b :=
    rustCourse_eq acceptable.1 acceptable.2.1
  have typescript : course intent p s now b .typescript = queryingPolicy p s b :=
    typescriptCourse_eq acceptable.1 acceptable.2.1
  have python : course intent p s now b .python = timeoutPolicy p s b :=
    pythonCourse_eq acceptable.1 acceptable.2.1
  rw [← policies_agree_iff]
  constructor
  · intro agree
    exact ⟨go.symm.trans ((agree .go .typescript).trans typescript),
      go.symm.trans ((agree .go .python).trans python)⟩
  rintro ⟨querying, timeout⟩
  have same : ∀ language, course intent p s now b language = strictPolicy p s b := by
    intro language
    cases language with
    | go => exact go
    | rust => exact rust
    | typescript => exact typescript.trans querying.symm
    | python => exact python.trans timeout.symm
  intro first second
  rw [same first, same second]

end

/-- The primary's `submit` times out and its `query` reports the transfer as pending. -/
def pendingAfterTimeout : RailBehaviour where
  primary := .error .timeout
  query := .ok { status := .pending, reference := some "p1" }
  secondary := .ok { status := .submitted, reference := some "b1" }

def plainIntent : Intent where
  id := "i1"
  idempotencyKey := "k1"

/-- Go and Rust call the outcome unknown, TypeScript and Python accepted. -/
theorem pending_after_timeout_divides :
    (course plainIntent ⟨"yellow_card"⟩ ⟨"bank"⟩ 0 pendingAfterTimeout .go).decision = .unknown ∧
    (course plainIntent ⟨"yellow_card"⟩ ⟨"bank"⟩ 0 pendingAfterTimeout .rust).decision = .unknown ∧
    (course plainIntent ⟨"yellow_card"⟩ ⟨"bank"⟩ 0 pendingAfterTimeout .typescript).decision =
      .accepted "yellow_card" ∧
    (course plainIntent ⟨"yellow_card"⟩ ⟨"bank"⟩ 0 pendingAfterTimeout .python).decision =
      .accepted "yellow_card" := by
  decide

/-- The four do not agree on it. -/
theorem pending_after_timeout_is_not_harmonious :
    ¬ ∀ first second, course plainIntent ⟨"yellow_card"⟩ ⟨"bank"⟩ 0 pendingAfterTimeout first =
      course plainIntent ⟨"yellow_card"⟩ ⟨"bank"⟩ 0 pendingAfterTimeout second := by
  have acceptable : Acceptable plainIntent 0 := ⟨by decide, by decide, .inl rfl⟩
  rw [coordinators_agree_iff acceptable]
  decide

end UmojaFlowOS.Multirail
