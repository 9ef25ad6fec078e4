import UmojaFlowOS.Multirail.Failover

/-!
# What the coordinator knows about a key

The four maps of the coordinator and its calls represent one state per key: nobody
has called with it, its leader is running, or it is decided for good. `begin` and
`finish` are the only moves between these states.
-/

namespace UmojaFlowOS.Multirail

inductive KeyState where
  | fresh
  | running (digest : List UInt8) (call : Nat)
  | decided (digest : List UInt8) (outcome : Result × Option RailError)

namespace Coordinator

variable {c later : Coordinator} {key : String} {digest bound : List UInt8} {call : Nat}
  {outcome : Result × Option RailError}

def decision (c : Coordinator) (key : String) : Option (Result × Option RailError) :=
  match c.records key with
  | some result => some (result, none)
  | none => (c.failures key).map fun err => ({}, some err)

/-- The four maps represent `state` at `key`. -/
def At (c : Coordinator) (key : String) : KeyState → Prop
  | .fresh => c.bindings key = none ∧ c.decision key = none ∧ c.inflight key = none
  | .running digest call => c.bindings key = some digest ∧ c.decision key = none ∧
      c.inflight key = some call
  | .decided digest outcome => c.bindings key = some digest ∧ c.decision key = some outcome ∧
      c.inflight key = none

/-- The call is done and hands out `outcome`. -/
def Finished (c : Coordinator) (call : Nat) (outcome : Result × Option RailError) : Prop :=
  ∃ digest, c.calls[call]? = some ⟨digest, true, outcome.1, outcome.2⟩

/-- Every key is in a state, and the running calls are distinct and not done. -/
structure WellFormed (c : Coordinator) : Prop where
  known : ∀ key, ∃ state, c.At key state
  pending : ∀ key call, c.inflight key = some call →
    ∃ digest result err, c.calls[call]? = some ⟨digest, false, result, err⟩
  distinct : ∀ key other call, c.inflight key = some call → c.inflight other = some call →
    key = other

theorem wellFormed_new : ({} : Coordinator).WellFormed where
  known _ := ⟨.fresh, rfl, rfl, rfl⟩
  pending _ _ none := absurd none nofun
  distinct _ _ _ none := absurd none nofun

theorem At.unique (left : c.At key first) (right : c.At key second) : first = second := by
  cases first <;> cases second <;> simp_all [At]

theorem decision_eq_none_iff :
    c.decision key = none ↔ c.records key = none ∧ c.failures key = none := by
  unfold decision
  cases c.records key with
  | none | some => simp

/-! ## `begin` -/

theorem known_of_decision (remembered : c.decision key = some outcome) :
    c.known key = some ((c.calls.length, false),
      { c with calls := c.calls ++ [⟨[], true, outcome.1, outcome.2⟩] }) := by
  unfold decision at remembered
  unfold known
  cases recorded : c.records key with
  | some result =>
    rw [recorded] at remembered
    cases remembered
    rfl
  | none =>
    rw [recorded] at remembered
    obtain ⟨err, failed, rfl⟩ := Option.map_eq_some_iff.mp remembered
    rw [failed]

theorem known_of_no_decision (none : c.decision key = none) :
    c.known key = (c.inflight key).map fun call => ((call, false), c) := by
  obtain ⟨unrecorded, unfailed⟩ := decision_eq_none_iff.mp none
  rw [known, unrecorded, unfailed]

theorem begin_fresh (state : c.At key .fresh) :
    c.begin key digest = (.ok (c.calls.length, true),
      { c with
        bindings := Function.update c.bindings key (some digest)
        calls := c.calls ++ [{ digest := digest }]
        inflight := Function.update c.inflight key (some c.calls.length) }) := by
  obtain ⟨unbound, undecided, idle⟩ := state
  rw [begin, unbound, known_of_no_decision undecided, idle]
  rfl

theorem begin_running (state : c.At key (.running digest call)) :
    c.begin key digest = (.ok (call, false), c) := by
  obtain ⟨binds, undecided, busy⟩ := state
  rw [begin, binds, known_of_no_decision undecided, busy]
  simp

theorem begin_decided (state : c.At key (.decided digest outcome)) :
    c.begin key digest = (.ok (c.calls.length, false),
      { c with calls := c.calls ++ [⟨[], true, outcome.1, outcome.2⟩] }) := by
  obtain ⟨binds, decided, -⟩ := state
  rw [begin, binds, known_of_decision decided]
  simp

theorem begin_conflict (binds : c.bindings key = some bound) (differs : bound ≠ digest) :
    c.begin key digest = (.error .idempotencyConflict, c) := by
  rw [begin, binds]
  simp [differs]

/-! ## What time does to a key -/

/-- Decided keys stay decided, and calls go on or end with the decision of their key. -/
structure Later (c later : Coordinator) : Prop where
  decided : ∀ key digest outcome, c.At key (.decided digest outcome) →
    later.At key (.decided digest outcome)
  running : ∀ key digest call, c.At key (.running digest call) →
    later.At key (.running digest call) ∨
      ∃ outcome, later.At key (.decided digest outcome) ∧ later.Finished call outcome
  finished : ∀ call outcome, c.Finished call outcome → later.Finished call outcome

theorem Later.refl : c.Later c where
  decided _ _ _ state := state
  running _ _ _ state := .inl state
  finished _ _ state := state

theorem Later.bindings (time : c.Later later) (formed : c.WellFormed)
    (binds : c.bindings key = some digest) : later.bindings key = some digest := by
  obtain ⟨state, represents⟩ := formed.known key
  cases state with
  | fresh => cases binds.symm.trans represents.1
  | running bound call =>
    obtain rfl := Option.some.inj (binds.symm.trans represents.1)
    rcases time.running key _ call represents with still | ⟨outcome, state, -⟩
    · exact still.1
    · exact state.1
  | decided bound outcome =>
    obtain rfl := Option.some.inj (binds.symm.trans represents.1)
    exact (time.decided key _ outcome represents).1

theorem Finished.append (state : c.Finished call outcome)
    (calls : later.calls = c.calls ++ [fresh]) : later.Finished call outcome := by
  obtain ⟨digest, found⟩ := state
  obtain ⟨bound, -⟩ := List.getElem?_eq_some_iff.mp found
  refine ⟨digest, ?_⟩
  rw [calls, List.getElem?_append_left bound, found]

theorem At.congr (represents : c.At key state) (bindings : later.bindings key = c.bindings key)
    (decision : later.decision key = c.decision key)
    (inflight : later.inflight key = c.inflight key) : later.At key state := by
  cases state <;> simpa only [At, bindings, decision, inflight] using represents

def lead (c : Coordinator) (key : String) (digest : List UInt8) : Coordinator :=
  { c with
    bindings := Function.update c.bindings key (some digest)
    calls := c.calls ++ [{ digest := digest }]
    inflight := Function.update c.inflight key (some c.calls.length) }

def answerAgain (c : Coordinator) (outcome : Result × Option RailError) : Coordinator :=
  { c with calls := c.calls ++ [⟨[], true, outcome.1, outcome.2⟩] }

inductive Begins (c : Coordinator) (key : String) (digest : List UInt8) :
    Except RailError (Nat × Bool) → Coordinator → Prop
  | leads : c.At key .fresh → Begins c key digest (.ok (c.calls.length, true)) (c.lead key digest)
  | follows (call : Nat) : c.At key (.running digest call) →
      Begins c key digest (.ok (call, false)) c
  | recalls (outcome : Result × Option RailError) : c.At key (.decided digest outcome) →
      Begins c key digest (.ok (c.calls.length, false)) (c.answerAgain outcome)
  | conflicts (bound : List UInt8) : c.bindings key = some bound → bound ≠ digest →
      Begins c key digest (.error .idempotencyConflict) c

/-- `begin` is one of the four moves. -/
theorem begins (formed : c.WellFormed) (key : String) (digest : List UInt8) :
    Begins c key digest (c.begin key digest).1 (c.begin key digest).2 := by
  obtain ⟨state, represents⟩ := formed.known key
  cases state with
  | fresh =>
    rw [begin_fresh represents]
    exact .leads represents
  | running bound call =>
    by_cases same : bound = digest
    · subst same
      rw [begin_running represents]
      exact .follows call represents
    · rw [begin_conflict represents.1 same]
      exact .conflicts bound represents.1 same
  | decided bound outcome =>
    by_cases same : bound = digest
    · subst same
      rw [begin_decided represents]
      exact .recalls outcome represents
    · rw [begin_conflict represents.1 same]
      exact .conflicts bound represents.1 same

theorem inflight_lead_self : (c.lead key digest).inflight key = some c.calls.length :=
  Function.update_self ..

theorem inflight_lead_other (differs : other ≠ key) :
    (c.lead key digest).inflight other = c.inflight other :=
  Function.update_of_ne differs _ _

theorem At.lead_other (represents : c.At other state) (differs : other ≠ key) :
    (c.lead key digest).At other state :=
  represents.congr (Function.update_of_ne differs _ _) rfl (inflight_lead_other differs)

theorem At.lead_self (represents : c.At key .fresh) :
    (c.lead key digest).At key (.running digest c.calls.length) :=
  ⟨Function.update_self .., represents.2.1, inflight_lead_self⟩

theorem At.answerAgain (represents : c.At key state) : (c.answerAgain outcome).At key state :=
  represents.congr rfl rfl rfl

theorem At.ne_of_fresh (represents : c.At other state)
    (fresh : c.At key .fresh) (known : state ≠ .fresh) : other ≠ key := by
  rintro rfl
  exact known (represents.unique fresh)

theorem Begins.moves (begun : Begins c key digest answer later) : c.Later later := by
  cases begun with
  | leads fresh =>
    refine ⟨fun other bound outcome state => ?_, fun other bound call state => ?_,
      fun call outcome state => state.append rfl⟩
    · exact state.lead_other (state.ne_of_fresh fresh nofun)
    · exact .inl (state.lead_other (state.ne_of_fresh fresh nofun))
  | follows | conflicts => exact .refl
  | recalls outcome state =>
    exact ⟨fun _ _ _ state => state.answerAgain, fun _ _ _ state => .inl state.answerAgain,
      fun _ _ state => state.append rfl⟩

theorem Begins.fresh (begun : Begins c key digest (.ok (call, true)) later) : c.At key .fresh := by
  cases begun with
  | leads fresh => exact fresh

theorem pending_append
    (pending : ∃ digest result err, c.calls[call]? = some ⟨digest, false, result, err⟩) :
    ∃ digest result err, (c.calls ++ [fresh])[call]? = some ⟨digest, false, result, err⟩ := by
  obtain ⟨digest, result, err, found⟩ := pending
  obtain ⟨bound, -⟩ := List.getElem?_eq_some_iff.mp found
  refine ⟨digest, result, err, ?_⟩
  rw [List.getElem?_append_left bound, found]

theorem WellFormed.lt_length (formed : c.WellFormed) (busy : c.inflight key = some call) :
    call < c.calls.length := by
  obtain ⟨_, _, _, found⟩ := formed.pending key call busy
  exact (List.getElem?_eq_some_iff.mp found).1

theorem WellFormed.lead (formed : c.WellFormed) (fresh : c.At key .fresh) :
    (c.lead key digest).WellFormed := by
  refine ⟨fun other => ?_, fun other call busy => ?_, fun first second call left right => ?_⟩
  · by_cases same : other = key
    · subst same
      exact ⟨_, fresh.lead_self⟩
    · obtain ⟨state, represents⟩ := formed.known other
      exact ⟨state, represents.lead_other same⟩
  · by_cases same : other = key
    · subst same
      obtain rfl := Option.some.inj (inflight_lead_self.symm.trans busy)
      exact ⟨digest, {}, none, List.getElem?_concat_length ..⟩
    · exact pending_append (formed.pending other call ((inflight_lead_other same).symm.trans busy))
  · -- The new call is numbered past all running ones.
    by_cases atFirst : first = key <;> by_cases atSecond : second = key
    · rw [atFirst, atSecond]
    · subst atFirst
      obtain rfl := Option.some.inj (inflight_lead_self.symm.trans left)
      have below := formed.lt_length ((inflight_lead_other atSecond).symm.trans right)
      exact absurd below (Nat.lt_irrefl _)
    · subst atSecond
      obtain rfl := Option.some.inj (inflight_lead_self.symm.trans right)
      have below := formed.lt_length ((inflight_lead_other atFirst).symm.trans left)
      exact absurd below (Nat.lt_irrefl _)
    · exact formed.distinct first second call ((inflight_lead_other atFirst).symm.trans left)
        ((inflight_lead_other atSecond).symm.trans right)

theorem Begins.wellFormed (formed : c.WellFormed)
    (begun : Begins c key digest answer later) : later.WellFormed := by
  cases begun with
  | leads fresh => exact formed.lead fresh
  | follows | conflicts => exact formed
  | recalls outcome state =>
    refine ⟨fun other => ?_, fun other call busy => ?_, formed.distinct⟩
    · obtain ⟨state, represents⟩ := formed.known other
      exact ⟨state, represents.answerAgain⟩
    · exact pending_append (formed.pending other call busy)

/-! ## `finish` -/

theorem decision_finish_self (undecided : c.decision key = none) (zero : err ≠ none → result = {}) :
    (c.finish key call result err).decision key = some (result, err) := by
  obtain ⟨unrecorded, unfailed⟩ := decision_eq_none_iff.mp undecided
  cases err with
  | none => simp [decision, finish]
  | some err =>
    rw [zero nofun]
    simp [decision, finish, unrecorded]

theorem At.finish_self (state : c.At key (.running digest call)) (zero : err ≠ none → result = {}) :
    (c.finish key call result err).At key (.decided digest (result, err)) :=
  ⟨state.1, decision_finish_self state.2.1 zero, Function.update_self ..⟩

theorem At.finish_other (represents : c.At other state) (differs : other ≠ key) :
    (c.finish key call result err).At other state := by
  refine represents.congr rfl ?_ (Function.update_of_ne differs _ _)
  cases err <;> simp [decision, finish, differs]

theorem finished_finish
    (busy : ∃ digest result err, c.calls[call]? = some ⟨digest, false, result, err⟩) :
    (c.finish key call result err).Finished call (result, err) := by
  obtain ⟨digest, old, oldErr, found⟩ := busy
  refine ⟨digest, ?_⟩
  simp [finish, found]

/-- `finish` decides the key of a running call and touches no other. -/
theorem later_finish (formed : c.WellFormed) (state : c.At key (.running digest call))
    (zero : err ≠ none → result = {}) : c.Later (c.finish key call result err) := by
  refine ⟨fun other bound outcome decided => ?_, fun other bound running represents => ?_,
    fun done outcome finished => ?_⟩
  · refine decided.finish_other ?_
    rintro rfl
    cases decided.unique state
  · by_cases same : other = key
    · subst same
      cases represents.unique state
      exact .inr ⟨(result, err), state.finish_self zero,
        finished_finish (formed.pending _ _ state.2.2)⟩
    · exact .inl (represents.finish_other same)
  · -- The call that ends now was not done, so it is not the one that was finished.
    obtain ⟨digest, found⟩ := finished
    obtain ⟨_, _, _, pending⟩ := formed.pending _ _ state.2.2
    have differs : call ≠ done := by
      rintro rfl
      exact absurd (pending.symm.trans found) (by simp)
    refine ⟨digest, ?_⟩
    simp [finish, found, differs]

theorem WellFormed.finish (formed : c.WellFormed) (state : c.At key (.running digest call))
    (zero : err ≠ none → result = {}) : (c.finish key call result err).WellFormed := by
  have elsewhere : ∀ other running, (c.finish key call result err).inflight other = some running →
      other ≠ key ∧ c.inflight other = some running := by
    intro other running busy
    have differs : other ≠ key := by
      rintro rfl
      cases (Function.update_self ..).symm.trans busy
    exact ⟨differs, (Function.update_of_ne differs _ _).symm.trans busy⟩
  refine ⟨fun other => ?_, fun other running busy => ?_, fun first second running left right => ?_⟩
  · by_cases same : other = key
    · subst same
      exact ⟨_, state.finish_self zero⟩
    · obtain ⟨state, represents⟩ := formed.known other
      exact ⟨state, represents.finish_other same⟩
  · obtain ⟨differs, busy⟩ := elsewhere other running busy
    obtain ⟨digest, old, oldErr, found⟩ := formed.pending other running busy
    have apart : call ≠ running := by
      rintro rfl
      exact differs (formed.distinct other key call busy state.2.2)
    refine ⟨digest, old, oldErr, ?_⟩
    simp [Coordinator.finish, found, apart]
  · exact formed.distinct first second running (elsewhere first running left).2
      (elsewhere second running right).2

end Coordinator

end UmojaFlowOS.Multirail
