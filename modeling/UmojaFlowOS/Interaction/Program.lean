import Mathlib.Data.List.Basic

/-!
# Programs that call out through an interface

A program is a finite tree of requests, each followed by a continuation for
every possible answer. Nothing is assumed about who answers: a run is any
sequence of answers, and it may stop before any request. Control flow is
therefore judged against every behaviour of the environment, and the same tree
is later scheduled against a concrete shared state.
-/

namespace UmojaFlowOS.Interaction

/-- The requests a program may make and the type of each one's answer. -/
structure Interface where
  Call : Type
  Answer : Call → Type

/-- A finite program over an interface. -/
inductive Program (P : Interface) (α : Type) where
  | ret (value : α)
  | call (request : P.Call) (next : P.Answer request → Program P α)

structure Event (P : Interface) where
  call : P.Call
  answer : P.Answer call

namespace Program

variable {P R : Interface} {α β γ : Type}

def bind : Program P α → (α → Program P β) → Program P β
  | .ret value, rest => rest value
  | .call request next, rest => .call request fun answer => (next answer).bind rest

instance : Monad (Program P) where
  pure := .ret
  bind := bind

/-- The program that makes one request and returns its answer. -/
def ask (request : P.Call) : Program P (P.Answer request) :=
  .call request .ret

/-- Replaces every request by the program that serves it. -/
def link (serve : (request : P.Call) → Program R (P.Answer request)) :
    Program P α → Program R α
  | .ret value => .ret value
  | .call request next => (serve request).bind fun answer => (next answer).link serve

@[simp] theorem pure_eq (value : α) : (pure value : Program P α) = .ret value := rfl

@[simp] theorem call_bind (request : P.Call) (next : P.Answer request → Program P α)
    (rest : α → Program P β) :
    (Program.call request next >>= rest) = .call request fun answer => next answer >>= rest := rfl

theorem bind_assoc (program : Program P α) (first : α → Program P β) (second : β → Program P γ) :
    ((program >>= first) >>= second) = (program >>= fun value => first value >>= second) := by
  induction program with
  | ret value => rfl
  | call request next ih =>
    rw [call_bind, call_bind, call_bind]
    congr 1
    funext answer
    exact ih answer

theorem bind_ret (program : Program P α) : (program >>= Program.ret) = program := by
  induction program with
  | ret value => rfl
  | call request next ih =>
    rw [call_bind]
    congr 1
    funext answer
    exact ih answer

instance : LawfulMonad (Program P) :=
  LawfulMonad.mk' (Program P) bind_ret (fun _ _ => rfl) bind_assoc

section
variable (serve : (request : P.Call) → Program R (P.Answer request))
include serve

@[simp] theorem link_call (request : P.Call) (next : P.Answer request → Program P α) :
    (Program.call request next).link serve =
      (serve request >>= fun answer => (next answer).link serve) := rfl

theorem link_bind (program : Program P α) (rest : α → Program P β) :
    (program >>= rest).link serve = (program.link serve >>= fun value => (rest value).link serve) := by
  induction program with
  | ret value => rfl
  | call request next ih =>
    rw [call_bind, link_call, link_call, bind_assoc]
    congr 1
    funext answer
    exact ih answer

end

/-- The requests a program makes when each is answered by a fixed function. -/
def trace (answer : (request : P.Call) → P.Answer request) : Program P α → List (Event P)
  | .ret _ => []
  | .call request next => ⟨request, answer request⟩ :: (next (answer request)).trace answer

def returned : Program P α → Option α
  | .ret value => some value
  | .call _ _ => none

theorem eq_ret_of_returned {program : Program P α} {value : α}
    (done : program.returned = some value) : program = .ret value := by
  cases program with
  | ret result => rw [Option.some.inj done]
  | call request next => cases done

/-- The value it then returns. -/
def value (answer : (request : P.Call) → P.Answer request) : Program P α → α
  | .ret value => value
  | .call request next => (next (answer request)).value answer

end Program

open Program

variable {P R : Interface} {α β γ : Type}

theorem mem_concat {member last : α} {items : List α} :
    member ∈ items ++ [last] ↔ member ∈ items ∨ member = last := by
  rw [List.mem_append, List.mem_singleton]

theorem exists_mem_append {items later : List α} {p : α → Prop} :
    (∃ item ∈ items ++ later, p item) ↔ (∃ item ∈ items, p item) ∨ ∃ item ∈ later, p item := by
  simp only [List.mem_append, or_and_right, exists_or]

/-! ## Runs -/

/-- `Run program trace rest`: answering the requests of `program` as `trace`
records leaves `rest` to be run. A finished run ends in `ret`; every other run is
one that stopped, or crashed, between two requests. -/
inductive Run : Program P α → List (Event P) → Program P α → Prop
  | stop (program : Program P α) : Run program [] program
  | step (request : P.Call) (next : P.Answer request → Program P α)
      (answer : P.Answer request) {trace : List (Event P)} {rest : Program P α} :
      Run (next answer) trace rest →
      Run (.call request next) (⟨request, answer⟩ :: trace) rest

variable {program rest : Program P α}

theorem Run.append {middle : Program P α} {first second : List (Event P)}
    (left : Run program first middle) (right : Run middle second rest) :
    Run program (first ++ second) rest := by
  induction left with
  | stop => exact right
  | step request next answer _ ih => exact .step request next answer (ih right)

variable {trace : List (Event P)}

theorem Run.snoc {request : P.Call} {next : P.Answer request → Program P α}
    (run : Run program trace (.call request next)) (answer : P.Answer request) :
    Run program (trace ++ [⟨request, answer⟩]) (next answer) :=
  run.append (.step request next answer (.stop _))

theorem run_trace (answer : (request : P.Call) → P.Answer request) (program : Program P α) :
    Run program (program.trace answer) (.ret (program.value answer)) := by
  induction program with
  | ret value => exact .stop _
  | call request next ih => exact .step request next (answer request) (ih _)

theorem run_of_value {answer : (request : P.Call) → P.Answer request} {value : α}
    (computed : program.value answer = value) : Run program (program.trace answer) (.ret value) :=
  computed ▸ run_trace answer program

theorem run_ret_iff {value : α} : Run (.ret value) trace rest ↔ trace = [] ∧ rest = .ret value := by
  constructor
  · intro run
    cases run
    exact ⟨rfl, rfl⟩
  · rintro ⟨rfl, rfl⟩
    exact .stop _

theorem run_call_cons_iff {request : P.Call} {next : P.Answer request → Program P α}
    {event : Event P} :
    Run (.call request next) (event :: trace) rest ↔
      ∃ answer, event = ⟨request, answer⟩ ∧ Run (next answer) trace rest := by
  constructor
  · intro run
    cases run with
    | step _ _ answer rest => exact ⟨answer, rfl, rest⟩
  · rintro ⟨answer, rfl, run⟩
    exact .step request next answer run

/-- A run of a sequence stops in its first part, or completes it. -/
theorem run_bind {rest : α → Program P β} {stopped : Program P β}
    (run : Run (program >>= rest) trace stopped) :
    (∃ part, Run program trace part ∧ stopped = (part >>= rest)) ∨
      ∃ first second value, trace = first ++ second ∧
        Run program first (.ret value) ∧ Run (rest value) second stopped := by
  induction program generalizing trace with
  | ret value => exact .inr ⟨[], trace, value, rfl, .stop _, run⟩
  | call request next ih =>
    rw [call_bind] at run
    cases run with
    | stop => exact .inl ⟨.call request next, .stop _, rfl⟩
    | step _ _ answer later =>
      rcases ih answer later with ⟨part, ran, stopped⟩ | ⟨first, second, value, rfl, ran, later⟩
      · exact .inl ⟨part, .step request next answer ran, stopped⟩
      · exact .inr ⟨_ :: first, second, value, rfl, .step request next answer ran, later⟩

/-- Some event of the trace satisfies `check` after what came before it. -/
def anyAt (check : List (Event P) → Event P → Bool) (past : List (Event P)) :
    List (Event P) → Bool
  | [] => false
  | event :: trace => check past event || anyAt check (past ++ [event]) trace

theorem exists_of_anyAt {check : List (Event P) → Event P → Bool} {past : List (Event P)}
    (found : anyAt check past trace = true) :
    ∃ before event after, trace = before ++ event :: after ∧
      check (past ++ before) event = true := by
  induction trace generalizing past with
  | nil => exact absurd found Bool.false_ne_true
  | cons event trace ih =>
    rcases (Bool.or_eq_true _ _).mp found with here | later
    · exact ⟨[], event, trace, rfl, by rw [List.append_nil, here]⟩
    obtain ⟨before, matched, after, rfl, holds⟩ := ih later
    refine ⟨event :: before, matched, after, rfl, ?_⟩
    rwa [List.append_assoc] at holds

end UmojaFlowOS.Interaction
