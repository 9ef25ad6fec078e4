import UmojaFlowOS.Interaction.Contract

/-!
# Programs that run concurrently

Any number of threads, each running a program, share one state. A request is
answered, and the shared state changed, in one step; between two requests
anything may happen. A thread that crashes is one that takes no further step.
What is left open (which answer is given, whether an operation fails) is a
choice made at each step, so a schedule of choices determines a run and can be
replayed.
-/

namespace UmojaFlowOS.Interaction

/-- A running program: what it was started for, what it has seen, what is left. -/
structure Thread (P : Interface) (ι α : Type) where
  label : ι
  past : List (Event P)
  rest : Program P α

/-- How threads start, how a request of a thread with its number and label is
answered, and what else may change the shared state. -/
structure Machine (P : Interface) (ι α S χ ε : Type) where
  spawn : S → ι → Option (Program P α)
  exec : S → Nat → ι → (request : P.Call) → χ → Option (P.Answer request × S)
  env : S → ε → Option S

structure Config (P : Interface) (ι α S : Type) where
  shared : S
  threads : List (Thread P ι α)

inductive Action (ι χ ε : Type) where
  | spawn (label : ι)
  | exec (thread : Nat) (choice : χ)
  | env (event : ε)

variable {P : Interface} {ι α S χ ε : Type}

/-- Serves a program alone: each request in turn, one choice for each. -/
def Program.serve (exec : S → (request : P.Call) → χ → Option (P.Answer request × S)) (state : S) :
    Program P α → List χ → Option (α × S)
  | .ret value, [] => some (value, state)
  | .ret _, _ :: _ => none
  | .call _ _, [] => none
  | .call request next, choice :: choices =>
    (exec state request choice).bind fun (answer, state) =>
      (next answer).serve exec state choices

variable {exec : S → (request : P.Call) → χ → Option (P.Answer request × S)} {choices : List χ}

theorem Program.serve_ret {state : S} {value : α} {result : α × S}
    (served : (Program.ret value : Program P α).serve exec state choices = some result) :
    result = (value, state) := by
  cases choices with
  | nil => exact (Option.some.inj served).symm
  | cons choice choices => cases served

theorem Program.serve_call {state : S} {request : P.Call} {next : P.Answer request → Program P α}
    {result : α × S} (served : (Program.call request next).serve exec state choices = some result) :
    ∃ choice rest answer after, choices = choice :: rest ∧
      exec state request choice = some (answer, after) ∧
      (next answer).serve exec after rest = some result := by
  cases choices with
  | nil => cases served
  | cons choice rest =>
    obtain ⟨⟨answer, after⟩, executed, later⟩ := Option.bind_eq_some_iff.mp served
    exact ⟨choice, rest, answer, after, rfl, executed, later⟩

theorem Program.serve_ask {β : Type} {state : S}
    {request : P.Call} {next : P.Answer request → Program P β} {result : β × S}
    (served : (Program.ask request >>= next).serve exec state choices = some result) :
    ∃ choice rest answer after, choices = choice :: rest ∧
      exec state request choice = some (answer, after) ∧
      (next answer).serve exec after rest = some result :=
  Program.serve_call served

/-! ## Lists of threads -/

theorem getElem?_set_cases {l : List α} {i j : Nat} {new found : α}
    (present : (l.set i new)[j]? = some found) :
    j = i ∧ found = new ∨ j ≠ i ∧ l[j]? = some found := by
  by_cases same : j = i
  · subst same
    obtain ⟨bound, equal⟩ := List.getElem?_eq_some_iff.mp present
    rw [List.getElem_set_self] at equal
    exact .inl ⟨rfl, equal.symm⟩
  · rw [List.getElem?_set_ne (Ne.symm same)] at present
    exact .inr ⟨same, present⟩

theorem getElem?_concat_cases {l : List α} {j : Nat} {new found : α}
    (present : (l ++ [new])[j]? = some found) :
    j = l.length ∧ found = new ∨ l[j]? = some found := by
  by_cases old : j < l.length
  · rw [List.getElem?_append_left old] at present
    exact .inr present
  obtain ⟨bound, -⟩ := List.getElem?_eq_some_iff.mp present
  rw [List.length_append, List.length_singleton] at bound
  obtain rfl : j = l.length := by omega
  rw [List.getElem?_concat_length] at present
  exact .inl ⟨rfl, (Option.some.inj present).symm⟩

namespace Machine

variable (M : Machine P ι α S χ ε)

def next (config : Config P ι α S) : Action ι χ ε → Option (Config P ι α S)
  | .spawn label => (M.spawn config.shared label).map fun program =>
      { config with threads := config.threads ++ [⟨label, [], program⟩] }
  | .exec i choice =>
    match config.threads[i]? with
    | some ⟨label, past, .call request next⟩ =>
      (M.exec config.shared i label request choice).map fun (answer, shared) =>
        ⟨shared, config.threads.set i ⟨label, past ++ [⟨request, answer⟩], next answer⟩⟩
    | _ => none
  | .env event => (M.env config.shared event).map fun shared => { config with shared := shared }

def replay (config : Config P ι α S) : List (Action ι χ ε) → Option (Config P ι α S)
  | [] => some config
  | action :: schedule => (M.next config action).bind fun config => replay config schedule

/-- `Reaches config later`: some schedule leads from `config` to `later`. -/
inductive Reaches (config : Config P ι α S) : Config P ι α S → Prop
  | refl : Reaches config config
  | tail {middle later : Config P ι α S} (action : Action ι χ ε) :
      Reaches config middle → M.next middle action = some later → Reaches config later

variable {M} {config middle later : Config P ι α S}

theorem Reaches.trans (first : M.Reaches config middle) (second : M.Reaches middle later) :
    M.Reaches config later := by
  induction second with
  | refl => exact first
  | tail action _ taken ih => exact .tail action ih taken

theorem reaches_of_replay {schedule : List (Action ι χ ε)}
    (replayed : M.replay config schedule = some later) : M.Reaches config later := by
  induction schedule generalizing config with
  | nil =>
    cases replayed
    exact .refl
  | cons action schedule ih =>
    obtain ⟨middle, taken, replayed⟩ := Option.bind_eq_some_iff.mp replayed
    exact (Reaches.tail action .refl taken).trans (ih replayed)

theorem exists_of_replay {property : Config P ι α S → Prop} [DecidablePred property]
    (schedule : List (Action ι χ ε))
    (found : (M.replay config schedule).any (fun later => decide (property later)) = true) :
    ∃ later, M.Reaches config later ∧ property later := by
  obtain ⟨later, replayed, holds⟩ := (Option.any_eq_true _ _).mp found
  exact ⟨later, reaches_of_replay replayed, of_decide_eq_true holds⟩

theorem next_spawn {label : ι} (taken : M.next config (.spawn label) = some later) :
    ∃ program, M.spawn config.shared label = some program ∧
      later = { config with threads := config.threads ++ [⟨label, [], program⟩] } := by
  obtain ⟨program, started, same⟩ := Option.map_eq_some_iff.mp taken
  exact ⟨program, started, same.symm⟩

theorem next_exec {i : Nat} {choice : χ} (taken : M.next config (.exec i choice) = some later) :
    ∃ label past request next answer shared,
      config.threads[i]? = some ⟨label, past, .call request next⟩ ∧
      M.exec config.shared i label request choice = some (answer, shared) ∧
      later = ⟨shared, config.threads.set i ⟨label, past ++ [⟨request, answer⟩], next answer⟩⟩ := by
  simp only [Machine.next] at taken
  split at taken
  · obtain ⟨⟨answer, shared⟩, done, same⟩ := Option.map_eq_some_iff.mp taken
    exact ⟨_, _, _, _, answer, shared, ‹_›, done, same.symm⟩
  · cases taken

theorem next_env {event : ε} (taken : M.next config (.env event) = some later) :
    ∃ shared, M.env config.shared event = some shared ∧
      later = { config with shared := shared } := by
  obtain ⟨shared, changed, same⟩ := Option.map_eq_some_iff.mp taken
  exact ⟨shared, changed, same.symm⟩

/-- Inversion of a step: a thread starts, a request is answered, or an event happens. -/
theorem next_cases {action : Action ι χ ε} (taken : M.next config action = some later) :
    (∃ label program, M.spawn config.shared label = some program ∧
      later = { config with threads := config.threads ++ [⟨label, [], program⟩] }) ∨
    (∃ i label past request next choice answer shared,
      config.threads[i]? = some ⟨label, past, .call request next⟩ ∧
      M.exec config.shared i label request choice = some (answer, shared) ∧
      later = ⟨shared, config.threads.set i ⟨label, past ++ [⟨request, answer⟩], next answer⟩⟩) ∨
    ∃ event shared, M.env config.shared event = some shared ∧
      later = { config with shared := shared } := by
  cases action with
  | spawn label =>
    obtain ⟨program, started, rfl⟩ := next_spawn taken
    exact .inl ⟨label, program, started, rfl⟩
  | exec i choice =>
    obtain ⟨label, past, request, next, answer, shared, active, done, rfl⟩ := next_exec taken
    exact .inr (.inl ⟨i, label, past, request, next, choice, answer, shared, active, done, rfl⟩)
  | env event =>
    obtain ⟨shared, changed, rfl⟩ := next_env taken
    exact .inr (.inr ⟨event, shared, changed, rfl⟩)

/-! ## What a thread has done -/

theorem next_thread {action : Action ι χ ε} (taken : M.next config action = some later) {i : Nat}
    {thread : Thread P ι α} (present : config.threads[i]? = some thread) :
    ∃ after trace, later.threads[i]? = some after ∧ after.label = thread.label ∧
      after.past = thread.past ++ trace ∧ Run thread.rest trace after.rest := by
  rcases next_cases taken with ⟨label, program, -, rfl⟩ |
    ⟨j, label, past, request, next, choice, answer, shared, active, -, rfl⟩ | ⟨event, shared, -, rfl⟩
  · refine ⟨thread, [], ?_, rfl, by simp, .stop _⟩
    obtain ⟨bound, -⟩ := List.getElem?_eq_some_iff.mp present
    rw [List.getElem?_append_left bound, present]
  · by_cases same : j = i
    · subst same
      obtain rfl := Option.some.inj (active.symm.trans present)
      refine ⟨⟨label, past ++ [⟨request, answer⟩], next answer⟩, [⟨request, answer⟩], ?_, rfl, rfl,
        .step request next answer (.stop _)⟩
      obtain ⟨bound, -⟩ := List.getElem?_eq_some_iff.mp present
      exact List.getElem?_set_self bound
    · refine ⟨thread, [], ?_, rfl, by simp, .stop _⟩
      rw [List.getElem?_set_ne same, present]
  · exact ⟨thread, [], present, rfl, by simp, .stop _⟩

/-- What a thread has seen is a run of the program it was started with. -/
theorem Reaches.run_of_thread (reached : M.Reaches config later) (started : config.threads = [])
    {thread : Thread P ι α} (present : thread ∈ later.threads) :
    ∃ shared program, M.spawn shared thread.label = some program ∧
      Run program thread.past thread.rest := by
  induction reached generalizing thread with
  | refl =>
    rw [started] at present
    cases present
  | tail action _ taken ih =>
    rcases next_cases taken with ⟨label, program, spawned, rfl⟩ |
      ⟨i, label, past, request, next, choice, answer, shared, active, -, rfl⟩ | ⟨event, shared, -, rfl⟩
    · rcases List.mem_append.mp present with old | new
      · exact ih old
      · rw [List.mem_singleton.mp new]
        exact ⟨_, program, spawned, .stop _⟩
    · rcases List.mem_or_eq_of_mem_set present with old | rfl
      · exact ih old
      · obtain ⟨shared, program, spawned, ran⟩ := ih (List.mem_of_getElem? active)
        exact ⟨shared, program, spawned, ran.snoc answer⟩
    · exact ih present

end Machine

/-! ## Requests of all threads -/

/-- The answered requests of all threads that satisfy `counted`. -/
def Config.asked (config : Config P ι α S) (counted : Event P → Bool) : List (Event P) :=
  config.threads.flatMap fun thread => thread.past.filter counted

theorem Config.asked_eq_nil_iff {config : Config P ι α S} {counted : Event P → Bool} :
    config.asked counted = [] ↔
      ∀ thread ∈ config.threads, ∀ event ∈ thread.past, counted event = false := by
  simp [asked]

/-- A step adds the one request it answers. -/
theorem Config.asked_exec_eq_nil_iff {config : Config P ι α S} {counted : Event P → Bool}
    {thread after : Thread P ι α} {shared : S} (active : config.threads[i]? = some thread)
    (grew : after.past = thread.past ++ [event]) :
    (Config.asked ⟨shared, config.threads.set i after⟩ counted) = [] ↔
      config.asked counted = [] ∧ counted event = false := by
  obtain ⟨bound, found⟩ := List.getElem?_eq_some_iff.mp active
  simp only [asked_eq_nil_iff]
  constructor
  · intro none_
    have mine := none_ after (List.mem_set bound after)
    rw [grew] at mine
    refine ⟨fun other present event asked => ?_, mine event (by simp)⟩
    obtain ⟨j, there⟩ := List.getElem?_of_mem present
    by_cases same : i = j
    · subst same
      obtain rfl := Option.some.inj (active.symm.trans there)
      exact mine event (by simp [asked])
    · refine none_ other (List.mem_of_getElem? (i := j) ?_) event asked
      rw [List.getElem?_set_ne same, there]
  rintro ⟨none_, new⟩ other present event asked
  rcases List.mem_or_eq_of_mem_set present with old | rfl
  · exact none_ other old event asked
  rw [grew] at asked
  rcases List.mem_append.mp asked with old | last
  · exact none_ thread (List.mem_of_getElem? active) event old
  · rw [List.mem_singleton.mp last]
    exact new

theorem filter_length_le_one {counted : Event P → Bool} {trace : List (Event P)}
    (first : ∀ before event after, trace = before ++ event :: after → counted event = true →
      ∀ earlier ∈ before, counted earlier = false) : (trace.filter counted).length ≤ 1 := by
  induction trace with
  | nil => simp
  | cons event trace ih =>
    by_cases now : counted event = true
    · have none : trace.filter counted = [] := by
        refine List.filter_eq_nil_iff.mpr fun later member again => ?_
        obtain ⟨before, after, rfl⟩ := List.append_of_mem member
        have earlier := first (event :: before) later after rfl again event (by simp)
        rw [now] at earlier
        cases earlier
      rw [List.filter_cons_of_pos now, none]
      exact Nat.le_refl 1
    rw [List.filter_cons_of_neg now]
    refine ih fun before later after split again earlier member => ?_
    exact first (event :: before) later after (by rw [split, List.cons_append]) again earlier
      (by simp [member])

/-- At most one request is counted if each thread makes one and no two do. -/
theorem Config.asked_length_le_one {config : Config P ι α S} {counted : Event P → Bool}
    (each : ∀ thread ∈ config.threads, (thread.past.filter counted).length ≤ 1)
    (alone : ∀ (i j : Nat) (first second : Thread P ι α), config.threads[i]? = some first →
      config.threads[j]? = some second → (∃ event ∈ first.past, counted event = true) →
      (∃ event ∈ second.past, counted event = true) → i = j) :
    (config.asked counted).length ≤ 1 := by
  obtain ⟨shared, threads⟩ := config
  dsimp only [asked] at *
  induction threads with
  | nil => simp
  | cons thread threads ih =>
    rw [List.flatMap_cons, List.length_append]
    by_cases mine : ∃ event ∈ thread.past, counted event = true
    · have none : (threads.flatMap fun thread => thread.past.filter counted) = [] := by
        refine List.flatMap_eq_nil_iff.mpr fun other member => ?_
        refine List.filter_eq_nil_iff.mpr fun event asked again => ?_
        obtain ⟨j, found⟩ := List.getElem?_of_mem member
        exact absurd (alone 0 (j + 1) thread other rfl found mine ⟨event, asked, again⟩) (by omega)
      rw [none, List.length_nil, Nat.add_zero]
      exact each thread (by simp)
    have none : thread.past.filter counted = [] :=
      List.filter_eq_nil_iff.mpr fun event member again => mine ⟨event, member, again⟩
    rw [none, List.length_nil, Nat.zero_add]
    refine ih (fun other member => each other (by simp [member])) ?_
    intro i j first second left right one two
    exact Nat.succ.inj (alone (i + 1) (j + 1) first second left right one two)

theorem Config.asked_length_le_of_each {config : Config P ι α S} {fewer more : Event P → Bool}
    (each : ∀ thread ∈ config.threads,
      (thread.past.filter fewer).length ≤ (thread.past.filter more).length) :
    (config.asked fewer).length ≤ (config.asked more).length := by
  obtain ⟨shared, threads⟩ := config
  dsimp only [asked] at *
  induction threads with
  | nil => exact Nat.le_refl 0
  | cons thread threads ih =>
    rw [List.flatMap_cons, List.length_append, List.flatMap_cons, List.length_append]
    exact Nat.add_le_add (each thread (by simp))
      (ih fun other member => each other (by simp [member]))

end UmojaFlowOS.Interaction
