import Mathlib.Algebra.BigOperators.Group.Finset.Basic
import UmojaFlowOS.Interaction.Concurrent
import UmojaFlowOS.Settlement.AllRails
import UmojaFlowOS.Settlement.LiquidityVerifier

/-!
# Admission of concurrent settlements

Any number of runs of `Execute`, on any number of replicas, that verify their
liquidity against one evidence table and one Redis. A run's verification is the
verifier's own code, one call at a time; the other ports answer anything.
-/

namespace UmojaFlowOS.Settlement.Liquidity

open Go Interaction

/-- The requests of a run: those of its verifier, and those to the other ports. -/
inductive AdmissionCall where
  | verifier (call : VerifierCall)
  | outside (port : Port)

@[reducible] def AdmissionCall.Answer : AdmissionCall → Type
  | verifier call => call.Answer
  | outside port => port.Answer

@[reducible] def admission : Interface where
  Call := AdmissionCall
  Answer := AdmissionCall.Answer

def askVerifier (call : VerifierCall) : Program admission call.Answer :=
  Program.ask (P := admission) (.verifier call)

/-- How a port call of a run is served. -/
def serveExecution (v : PostgresRedisLiquidityVerifier) :
    (port : Port) → Program admission port.Answer
  | .verifyLiquidity intent route => do
    let (verdict, err) ← (verify v intent route).link askVerifier
    return (verdict.decision, err)
  | port => Program.ask (P := admission) (.outside port)

/-- A run of `Execute`: the replica's coordinator and verifier, and the intent. -/
structure Execution where
  coordinator : Coordinator := {}
  verifier : PostgresRedisLiquidityVerifier := {}
  intent : Intent

/-- What is left open when a run makes a request; `answers` says how the ports
answer at this moment. -/
inductive AdmissionChoice where
  | verifier (choice : VerifierChoice)
  | answers (answer : (port : Port) → port.Answer)

def admissionExec (s : VerifierState) (i : Nat) :
    (call : AdmissionCall) → AdmissionChoice → Option (call.Answer × VerifierState)
  | .verifier call, .verifier choice => s.exec i call choice
  | .outside port, .answers answer => some (answer port, s)
  | _, _ => none

def executions [CaseTables] :
    Machine admission Execution Outcome VerifierState AdmissionChoice VerifierEvent where
  spawn _ run := some ((execute run.coordinator run.intent).link (serveExecution run.verifier))
  exec s i _ call choice := admissionExec s i call choice
  env := VerifierState.happens

abbrev AdmissionConfig := Config admission Execution Outcome VerifierState

def emptyTreasury : AdmissionConfig := ⟨{}, []⟩

/-! ## What is admitted -/

abbrev ExecutionThread := Thread admission Execution Outcome

def shownRow : Event admission → Option LiquidityEvidence
  | ⟨.verifier (.selectEvidence _ _ _ _), .ok found⟩ => some found
  | _ => none

/-- The saga was advanced to `liquidity_reserved`. -/
def reserves : Event admission → Bool
  | ⟨.outside (.store (.advance _ .liquidityReserved _)), (_, none)⟩ => true
  | _ => false

section
variable (e : LiquidityEvidence)

/-- The query of the run has returned `e`. -/
def wasShown (run : ExecutionThread) : Bool := run.past.any (shownRow · = some e)

/-- The run verified its liquidity against `e` and advanced to `liquidity_reserved`. -/
def admittedAgainst (run : ExecutionThread) : Bool := wasShown e run && run.past.any reserves

def admitted (runs : List ExecutionThread) : Finset Intent :=
  ((runs.filter (admittedAgainst e)).map (·.label.intent)).toFinset

def admittedAmount (runs : List ExecutionThread) : Int :=
  ∑ intent ∈ admitted e runs, intent.amountMinor.toInt

/-- The intents that were executed on `e`, whether they were admitted or not. -/
def executedOn (runs : List ExecutionThread) : Finset Intent :=
  ((runs.filter (wasShown e)).map (·.label.intent)).toFinset

def executedAmount (runs : List ExecutionThread) : Int :=
  ∑ intent ∈ executedOn e runs, intent.amountMinor.toInt

/-- What `e` leaves for settlements, in exact integers. -/
def headroom : Int :=
  e.availableMinor.toInt - e.reservedMinor.toInt - e.requiredBufferMinor.toInt

end

/-- What was admitted against a row fits into the headroom of that row. -/
def WithinHeadroom (runs : List ExecutionThread) : Prop :=
  ∀ e, (admitted e runs).Nonempty → admittedAmount e runs ≤ headroom e

theorem mem_admitted :
    intent ∈ admitted e runs ↔
      ∃ run ∈ runs, admittedAgainst e run = true ∧ run.label.intent = intent := by
  simp [admitted, and_assoc]

theorem mem_executedOn :
    intent ∈ executedOn e runs ↔
      ∃ run ∈ runs, wasShown e run = true ∧ run.label.intent = intent := by
  simp [executedOn, and_assoc]

def shownRows (runs : List ExecutionThread) : List LiquidityEvidence :=
  runs.flatMap (·.past.filterMap shownRow)

theorem mem_shownRows_of_admitted (listed : intent ∈ admitted e runs) : e ∈ shownRows runs := by
  obtain ⟨run, present, against, -⟩ := mem_admitted.mp listed
  obtain ⟨event, seen, shown⟩ := List.any_eq_true.mp (Bool.and_eq_true_iff.mp against).1
  exact List.mem_flatMap.mpr
    ⟨run, present, List.mem_filterMap.mpr ⟨event, seen, of_decide_eq_true shown⟩⟩

instance (runs : List ExecutionThread) : Decidable (WithinHeadroom runs) :=
  decidable_of_iff (∀ e ∈ shownRows runs,
      (admitted e runs).Nonempty → admittedAmount e runs ≤ headroom e)
    ⟨fun within e some_ => within e (mem_shownRows_of_admitted some_.choose_spec) some_,
      fun within e _ => within e⟩

end UmojaFlowOS.Settlement.Liquidity
