import Mathlib.Tactic.SplitIfs
import UmojaFlowOS.Interaction.Steps

/-!
# The segregation-of-duties monitor

`runSegregationOfDutiesMonitorRound` (`segregationOfDutiesMonitor.ts`). The advisory lock admits
one round at a time; a round may fail or crash at each of its transactions and calls.
-/

namespace UmojaFlowOS.Alerting

open Interaction

/-- `Violation` (lines 17-24). -/
structure Violation where
  dossierId : String
  itemId : String
  area : String
  code : String
  evidenceRecordedBy : Option String
  verifiedBy : Option String

/-- The unique columns of `compliance_alerts` (`0011_compliance_alerts.sql:72`). -/
structure ComplianceAlert where
  alertPolicyId : String
  sourceReference : String
  deriving DecidableEq

/-- How a transaction ends: as it should, or with an error or a crash, whether it has taken
effect by then or not. -/
inductive Ending where
  | done
  | broken (kept : Bool)
  deriving DecidableEq

/-- What a round meets. Without an answer a call throws or the process ends. -/
structure Round where
  leader : Option Bool := some true
  violations : Option (List Violation)
  evaluation : Ending := .done
  /-- The newest enabled policy. -/
  policy : Option String
  raising : Ending := .done
  notification : Option Bool
  recording : Ending := .done

inductive Status where
  | clean
  | exceptionsDetected
  | leaderUnavailable
  | indeterminate
  deriving DecidableEq

/-- The alerts, and the digests `notifyOwner` was called for with its answers. -/
structure Monitor where
  alerts : List ComplianceAlert := []
  notified : List (String × Bool) := []

/-- `raiseAndDeliverExceptionAlert` (lines 234-307), and whether it returns. -/
def raiseAndDeliverExceptionAlert (r : Round) (digest : String) (m : Monitor) : Monitor × Bool :=
  match r.policy with
  | none => (m, r.raising = .done)
  | some policyId =>
    let alert := ⟨policyId, "sod:" ++ digest⟩
    let raised := if alert ∈ m.alerts then m else { m with alerts := alert :: m.alerts }
    match r.raising with
    | .broken kept => (if kept then raised else m, false)
    | .done =>
      if alert ∈ m.alerts then (raised, true)
      else
        match r.notification with
        | none => (raised, false)
        | some delivered =>
          ({ raised with notified := (digest, delivered) :: raised.notified }, r.recording = .done)

/-- `runSegregationOfDutiesMonitorRound` (lines 309-347); a round that crashes has no status, an
error makes it `indeterminate`. -/
def runRound (digest : List Violation → String) (r : Round) (m : Monitor) : Monitor × Status :=
  match r.leader, r.violations with
  | none, _ | some true, none => (m, .indeterminate)
  | some false, _ => (m, .leaderUnavailable)
  | some true, some violations =>
    if r.evaluation ≠ .done then (m, .indeterminate)
    else if violations = [] then (m, .clean)
    else
      match raiseAndDeliverExceptionAlert r (digest violations) m with
      | (m, true) => (m, .exceptionsDetected)
      | (m, false) => (m, .indeterminate)

variable {digest : List Violation → String}

section
variable (digest : List Violation → String)

def roundStep (m : Monitor) (r : Round) : Option Monitor :=
  some (runRound digest r m).1

/-- The round detects violations under an enabled policy and is done without a notification. -/
def Skips (m : Monitor) (r : Round) (violations : List Violation) :
    Prop :=
  r.violations = some violations ∧ r.policy ≠ none ∧
    (runRound digest r m).2 = .exceptionsDetected ∧ (runRound digest r m).1.notified = m.notified

/-- The round evaluates violations for which the policy has no alert yet, and the transaction
that inserts one takes effect. -/
def Raises (m : Monitor) (r : Round) : Prop :=
  r.leader = some true ∧ r.evaluation = .done ∧ r.raising ≠ .broken false ∧
    ∃ violations policyId, r.violations = some violations ∧ violations ≠ [] ∧
      r.policy = some policyId ∧ ⟨policyId, "sod:" ++ digest violations⟩ ∉ m.alerts

/-- A round that raises an alert goes on to a notification that is accepted. -/
def Delivers (m : Monitor) (r : Round) : Prop :=
  Raises digest m r → r.raising = .done ∧ r.notification = some true

end

def Accepted (m : Monitor) : Prop :=
  ∀ alert ∈ m.alerts, ∃ digest, alert.sourceReference = "sod:" ++ digest ∧
    (digest, true) ∈ m.notified

/-- What a round does: nothing, or it raises one alert. -/
theorem runRound_cases (digest : List Violation → String) (m : Monitor) (r : Round) :
    (runRound digest r m).1 = m ∧ (∀ violations policyId, r.violations = some violations →
      r.policy = some policyId → (runRound digest r m).2 = .exceptionsDetected →
      ⟨policyId, "sod:" ++ digest violations⟩ ∈ m.alerts) ∨
    Raises digest m r ∧ ∃ violations policyId,
      (runRound digest r m).1.alerts = ⟨policyId, "sod:" ++ digest violations⟩ :: m.alerts ∧
      (r.raising = .done → r.notification = some true →
        (runRound digest r m).1.notified = (digest violations, true) :: m.notified) ∧
      ((runRound digest r m).2 = .exceptionsDetected →
        (runRound digest r m).1.notified ≠ m.notified) := by
  unfold runRound raiseAndDeliverExceptionAlert
  split
  · simp
  · simp
  · simp
  rename_i violations leader found
  split_ifs with failed none_
  · simp
  · simp
  rcases policy : r.policy with _ | policyId
  · cases r.raising <;> simp
  by_cases old : ⟨policyId, "sod:" ++ digest violations⟩ ∈ m.alerts
  · refine .inl ⟨?_, ?_⟩
    · rcases r.raising with _ | _ | _ <;> simp [old]
    rintro _ _ same ⟨⟩ -
    cases found.symm.trans same
    exact old
  have raises (kept : r.raising ≠ .broken false) : Raises digest m r :=
    ⟨leader, Decidable.not_not.mp failed, kept, violations, policyId, found, none_, policy, old⟩
  rcases raising : r.raising with _ | _ | _
  · refine .inr ⟨raises (by simp [raising]), violations, policyId, ?_⟩
    rcases r.notification with _ | delivered
    · simp [old]
    · by_cases recorded : r.recording = .done <;> simp +contextual [old, recorded]
  · simp
  · exact .inr ⟨raises (by simp [raising]), violations, policyId, by simp [old]⟩

/-- A round that delivers leaves every alert accepted. -/
theorem Accepted.next (accepted : Accepted m) (delivers : Delivers digest m r)
    (taken : roundStep digest m r = some later) : Accepted later := by
  cases taken
  rcases runRound_cases digest m r with ⟨same, -⟩ | ⟨raises, violations, policyId, added, sent, -⟩
  · rwa [same]
  obtain ⟨raised, notified⟩ := delivers raises
  intro alert present
  rw [sent raised notified]
  rw [added] at present
  rcases List.mem_cons.mp present with rfl | earlier
  · exact ⟨_, rfl, by simp⟩
  · obtain ⟨digest, named, told⟩ := accepted alert earlier
    exact ⟨digest, named, by simp [told]⟩

/-- A skipped notification has an alert for its digest. -/
theorem alert_of_skips (skips : Skips digest m r violations) :
    ∃ policyId, ⟨policyId, "sod:" ++ digest violations⟩ ∈ m.alerts := by
  obtain ⟨found, enabled, status, silent⟩ := skips
  obtain ⟨policyId, policy⟩ := Option.ne_none_iff_exists'.mp enabled
  rcases runRound_cases digest m r with ⟨-, present⟩ | ⟨-, _, _, -, -, attempted⟩
  · exact ⟨policyId, present _ _ found policy status⟩
  · exact absurd silent (attempted status)

/-- In every sequence of rounds of which those that raise an alert go on to an accepted
notification: whenever a round skips the notification, one for the same digest was accepted, and
so was one for every recorded alert. -/
theorem notification_skipped_after_acceptance {m : Monitor}
    (reached : Stepped (roundStep digest) (Delivers digest) {} m) :
    (∀ r violations, Skips digest m r violations → (digest violations, true) ∈ m.notified) ∧
      Accepted m := by
  have starts : Accepted {} := nofun
  have accepted : Accepted m := reached.invariant starts Accepted.next
  refine ⟨fun r violations skips => ?_, accepted⟩
  obtain ⟨policyId, present⟩ := alert_of_skips skips
  obtain ⟨same, named, told⟩ := accepted _ present
  obtain rfl : digest violations = same := String.append_right_inj _ |>.mp named
  exact told

def sampleViolations : List Violation :=
  [⟨"d1", "i1", "custody", "self_verification", some "ada", some "ada"⟩]

def sampleRound (notification : Option Bool) : Round where
  violations := some sampleViolations
  policy := some "p1"
  notification := notification

/-- The first round notifies, and is accepted. -/
theorem accepted_alert_is_skipped :
    ("9f", true) ∈ (runRound (fun _ => "9f") (sampleRound true) {}).1.notified :=
  (notification_skipped_after_acceptance
    (.step (sampleRound true) .refl (fun _ => ⟨rfl, rfl⟩) rfl)).1 (sampleRound none) sampleViolations
    ⟨rfl, nofun, by decide +kernel, by decide +kernel⟩

/-- Once a notification was not accepted, every round that finds the same violations is done
without one. -/
theorem refused_alert_is_never_notified : ∃ m,
    Stepped (roundStep fun _ => "9f") (fun _ _ => True) {} m ∧ ("9f", true) ∉ m.notified ∧
      ∀ notification, Skips (fun _ => "9f") m (sampleRound notification) sampleViolations ∧
        (runRound (fun _ => "9f") (sampleRound notification) m).1 = m := by
  refine ⟨_, .step (sampleRound false) .refl trivial rfl, by decide +kernel, fun notification => ?_⟩
  exact ⟨⟨rfl, nofun, by rfl, by rfl⟩, by rfl⟩

end UmojaFlowOS.Alerting
