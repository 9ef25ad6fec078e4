import UmojaFlowOS.Multirail.Proofs.KeyStates

/-!
# One execution per key

However the callers of a coordinator interleave, only the leader of a key calls its
rails, and everyone who reaches `begin` with the same payload is given the decision of
the key.
-/

namespace UmojaFlowOS.Multirail

open Crypto Interaction

/-! ## What is observed of a run -/

/-- `Submit` was called on the rail in `role`, under `key`. -/
def submits (role : Role) (key : String) (event : Event requests) : Bool :=
  match event.call with
  | .submit used intent => decide (used = role ∧ intent.idempotencyKey = key)
  | _ => false

def submissions (config : Config requests Caller (Result × Option RailError) Callers) (role : Role)
    (key : String) : List (Event requests) :=
  config.asked (submits role key)

/-- The primary proved that it had no effect: a successful `Submit` that is neither
accepted nor unknown and marked retryable, or a failed one followed by a `Query`
that is failed or held and marked retryable. -/
def ProvedNoEffect (intent : Intent) (past : List (Event requests)) : Prop :=
  (∃ out, ⟨.submit .primary intent, (out, none)⟩ ∈ past ∧ out.status.accepted = false ∧
    out.status ≠ .unknown ∧ out.retryableWithoutBusinessEffect = true) ∨
  ∃ before out err between q after,
    past = before ++ ⟨.submit .primary intent, (out, some err)⟩ ::
      (between ++ ⟨.query intent, (q, none)⟩ :: after) ∧
    q.status.declined = true ∧ q.retryableWithoutBusinessEffect = true

/-- `Execute` refuses the call before it looks at the key. -/
def Refused (caller : Caller) (past : List (Event requests)) : Prop :=
  caller.primary = none ∨ caller.intent.id = "" ∨ caller.intent.idempotencyKey = "" ∨
    caller.intent.expiresAt ≠ 0 ∧ ∃ now, ⟨.now, now⟩ ∈ past ∧ now > caller.intent.expiresAt

/-- The caller's own context ended while it waited. -/
def GaveUp (past : List (Event requests)) : Prop :=
  ∃ call err, ⟨.await call, .contextEnded err⟩ ∈ past

/-! ## The contract of one `Execute` -/

abbrev Caller.key (caller : Caller) : String := caller.intent.idempotencyKey

abbrev Caller.digest (caller : Caller) : List UInt8 := sha256 caller.intent.payload

def Begun (caller : Caller) (answer : Except RailError (Nat × Bool)) (past : List (Event requests)) :
    Prop :=
  ⟨.begin caller.intent.idempotencyKey (sha256 caller.intent.payload), answer⟩ ∈ past

def Unbegun (past : List (Event requests)) : Prop := ∀ event ∈ past, event.call = .now

/-- The rails and `finish` are for leaders, each once. -/
def callerGuar (caller : Caller) (past : List (Event requests)) : Request → Prop
  | .now => True
  | .begin key digest => key = caller.intent.idempotencyKey ∧
      digest = sha256 caller.intent.payload ∧ Unbegun past
  | .await call => Begun caller (.ok (call, false)) past
  | .submit role intent => intent = caller.intent ∧ (∃ call, Begun caller (.ok (call, true)) past) ∧
      (∀ event ∈ past, submits role caller.intent.idempotencyKey event = false) ∧
      (role = .secondary → ProvedNoEffect caller.intent past)
  | .query _ => True
  | .finish key call result err => key = caller.intent.idempotencyKey ∧
      Begun caller (.ok (call, true)) past ∧
      (∀ event ∈ past, ∀ key call result err, event.call ≠ .finish key call result err) ∧
      (err ≠ none → result = {})

/-- Why a caller was given its result. -/
inductive Returns (caller : Caller) (past : List (Event requests)) : Result × Option RailError → Prop
  | refused (value : Result × Option RailError) : Refused caller past → Returns caller past value
  | gaveUp (value : Result × Option RailError) : GaveUp past → Returns caller past value
  | rejected (err : RailError) : Begun caller (.error err) past → Returns caller past ({}, some err)
  | followed (call : Nat) (result : Result) (err : Option RailError) :
      Begun caller (.ok (call, false)) past → ⟨.await call, .completed result err⟩ ∈ past →
      Returns caller past (result, err)
  | led (call : Nat) (result : Result) (err : Option RailError) :
      Begun caller (.ok (call, true)) past →
      ⟨.finish caller.intent.idempotencyKey call result err, ()⟩ ∈ past →
      Returns caller past (result, err)

abbrev callerContract (caller : Caller) : Contract requests (List (Event requests)) :=
  onHistory anyAnswer (callerGuar caller)

section
variable {caller : Caller} {past : List (Event requests)}

/-- The leader at work: it has called the rails as in `past` and `finish` not at all. -/
structure Leading (caller : Caller) (call : Nat) (past : List (Event requests)) : Prop where
  begun : Begun caller (.ok (call, true)) past
  unfinished : ∀ event ∈ past, ∀ key call result err, event.call ≠ .finish key call result err

theorem Leading.snoc (leading : Leading caller call past)
    (other : ∀ key call result err, event.call ≠ .finish key call result err) :
    Leading caller call (past ++ [event]) := by
  refine ⟨List.mem_append_left _ leading.begun, fun event member => ?_⟩
  rcases mem_concat.mp member with old | rfl
  · exact leading.unfinished event old
  · exact other

/-- What the leader's decision leaves behind: it still has to finish, and an error
comes with the zero result. -/
def Decided (caller : Caller) (call : Nat) (past : List (Event requests))
    (value : Result × Option RailError) : Prop :=
  Leading caller call past ∧ (value.2 ≠ none → value.1 = {})

variable {secondary : Option Rail}

section
variable (leading : Leading caller call past)
  (unused : ∀ event ∈ past, submits .secondary caller.intent.idempotencyKey event = false)
  (proved : ProvedNoEffect caller.intent past)
include leading unused proved

theorem fallBack_meets :
    Meets (callerContract caller) (Decided caller call) past
      (fallBack caller.intent secondary) := by
  rcases secondary with _ | rail
  · exact ⟨leading, fun _ => rfl⟩
  refine meets_ask_bind.mpr
    ⟨⟨rfl, ⟨call, leading.begun⟩, unused, fun _ => proved⟩, fun (alt, err) _ => ?_⟩
  have after : Leading caller call (past ++ [⟨.submit .secondary caller.intent, (alt, err)⟩]) :=
    leading.snoc nofun
  rcases err with _ | err
  case some => exact ⟨after, fun _ => rfl⟩
  dsimp only
  split
  · exact ⟨after, fun _ => rfl⟩
  · exact ⟨after, fun failed => absurd rfl failed⟩

theorem afterPrimary_meets :
    Meets (callerContract caller) (Decided caller call) past
      (afterPrimary caller.intent secondary out) := by
  unfold afterPrimary
  split
  · exact ⟨leading, fun _ => rfl⟩
  · exact fallBack_meets leading unused proved

end

theorem unused_snoc (unused : ∀ event ∈ past, submits role key event = false)
    (other : submits role key last = false) :
    ∀ event ∈ past ++ [last], submits role key event = false := by
  intro event member
  rcases mem_concat.mp member with old | rfl
  · exact unused event old
  · exact other

theorem execute_meets (leading : Leading caller call past)
    (unused : ∀ role, ∀ event ∈ past, submits role caller.key event = false) :
    Meets (callerContract caller) (Decided caller call) past
      (execute caller.intent primary secondary) := by
  refine meets_ask_bind.mpr
    ⟨⟨rfl, ⟨call, leading.begun⟩, unused .primary, nofun⟩, fun (out, err) _ => ?_⟩
  have after : Leading caller call (past ++ [⟨.submit .primary caller.intent, (out, err)⟩]) :=
    leading.snoc nofun
  have unsent := unused_snoc (unused .secondary)
    (show submits .secondary caller.key
      ⟨.submit .primary caller.intent, (out, err)⟩ = false by simp [submits])
  cases err with
  | none =>
    dsimp only
    split
    · exact ⟨after, fun failed => absurd rfl failed⟩
    split
    · exact ⟨after, fun _ => rfl⟩
    rename_i unaccepted unproved
    obtain ⟨known, retryable⟩ := not_or.mp unproved
    refine afterPrimary_meets after unsent (.inl ⟨out, List.mem_append_right _ ?_, ?_, known, ?_⟩)
    · simp
    · exact Bool.not_eq_true _ ▸ unaccepted
    · exact not_not.mp retryable
  | some err =>
    refine meets_ask_bind.mpr ⟨trivial, fun (q, qerr) _ => ?_⟩
    have queried : Leading caller call (past ++ [⟨.submit .primary caller.intent, (out, some err)⟩] ++
        [⟨.query caller.intent, (q, qerr)⟩]) := after.snoc nofun
    dsimp only
    split
    · exact ⟨queried, fun _ => rfl⟩
    rename_i proved
    obtain ⟨answered, rest⟩ := not_or.mp proved
    obtain ⟨declined, retryable⟩ := not_or.mp rest
    obtain rfl : qerr = none := by simpa using answered
    refine afterPrimary_meets queried (unused_snoc unsent rfl) (.inr ⟨past, out, err, [], q, [], ?_,
      not_not.mp declined, not_not.mp retryable⟩)
    simp

theorem unused_of_unbegun (unbegun : Unbegun past) (role : Role) (key : String) :
    ∀ event ∈ past, submits role key event = false := by
  intro event member
  rw [submits, unbegun event member]

theorem join_meets (unbegun : Unbegun past) :
    Meets (callerContract caller) (Returns caller) past (join caller.intent primary secondary) := by
  refine meets_ask_bind.mpr ⟨⟨rfl, rfl, unbegun⟩, fun begun _ => ?_⟩
  have last : Begun caller begun (past ++ [⟨.begin caller.key caller.digest, begun⟩]) := List.mem_concat_self
  match begun, last with
  | .error err, last => exact .rejected err last
  | .ok (call, false), last =>
    refine meets_ask_bind.mpr ⟨last, fun awaited _ => ?_⟩
    cases awaited with
    | completed result err =>
      exact .followed call result err (List.mem_append_left _ last) List.mem_concat_self
    | contextEnded err =>
      exact .gaveUp _ ⟨call, err, by simp⟩
  | .ok (call, true), last =>
    have leading : Leading caller call (past ++ [⟨.begin caller.key caller.digest, .ok (call, true)⟩]) := by
      refine ⟨last, fun event member key call result err finish => ?_⟩
      rcases mem_concat.mp member with old | rfl
      · cases (unbegun event old).symm.trans finish
      · cases finish
    refine (execute_meets leading fun role => unused_snoc (unused_of_unbegun unbegun role _) rfl).bind
      fun after (result, err) decided => ?_
    refine meets_ask_bind.mpr
      ⟨⟨rfl, decided.1.begun, decided.1.unfinished, decided.2⟩, fun _ _ => ?_⟩
    exact .led call result err (List.mem_append_left _ decided.1.begun) List.mem_concat_self

/-- Every run of `Execute` keeps the contract of its caller. -/
theorem Execute_meets (caller : Caller) :
    Meets (callerContract caller) (Returns caller) []
      (Execute caller.intent caller.primary caller.secondary) := by
  unfold Execute
  rcases primary : caller.primary with _ | rail
  · exact .refused _ (.inl primary)
  dsimp only
  split
  · rename_i missing
    exact .refused _ (.inr (missing.imp_right .inl))
  split
  · exact join_meets fun event member => absurd member List.not_mem_nil
  rename_i expires
  refine meets_ask_bind.mpr ⟨trivial, fun now _ => ?_⟩
  split
  · rename_i late
    exact .refused _ (.inr (.inr (.inr ⟨expires, now, by simp, late⟩)))
  · refine join_meets fun event member => ?_
    rw [List.mem_singleton.mp member]

end

/-! ## What a request does to the coordinator -/

def Effect (s : Callers) (event : Event requests) (after : Callers) : Prop :=
  match event with
  | ⟨.begin key digest, answer⟩ => s.coordinator.Begins key digest answer after.coordinator
  | ⟨.await call, .completed result err⟩ =>
    after.coordinator = s.coordinator ∧ s.coordinator.Finished call (result, err)
  | ⟨.finish key call result err, _⟩ =>
    after.coordinator = s.coordinator.finish key call result err
  | _ => after.coordinator = s.coordinator

/-- Inversion of one request. -/
theorem exec_effect {s after : Callers} (formed : s.coordinator.WellFormed)
    (executed : s.exec i caller request choice = some (answer, after)) :
    Effect s ⟨request, answer⟩ after := by
  cases request with
  | begin key digest =>
    cases choice with
    | proceeds =>
      cases executed
      exact Coordinator.begins formed key digest
    | _ => cases executed
  | await call =>
    cases choice with
    | proceeds =>
      simp only [Callers.exec] at executed
      split at executed
      · cases executed
        exact ⟨rfl, _, ‹_›⟩
      · cases executed
    | contextDone =>
      obtain ⟨err, -, same⟩ := Option.map_eq_some_iff.mp executed
      cases same
      rfl
    | _ => cases executed
  | finish key call result err =>
    cases choice with
    | proceeds =>
      cases executed
      rfl
    | _ => cases executed
  | now =>
    cases choice with
    | clock now =>
      cases executed
      rfl
    | _ => cases executed
  | submit | query =>
    cases choice with
    | rail submission err =>
      cases executed
      rfl
    | _ => cases executed

/-! ## What the callers may rely on -/

/-- What a caller that does not lead has been told still holds. -/
structure Informed (c : Coordinator) (caller : Caller) (past : List (Event requests)) : Prop where
  follows : ∀ call, Begun caller (.ok (call, false)) past →
    c.At caller.intent.idempotencyKey (.running (sha256 caller.intent.payload) call) ∨
      ∃ outcome, c.At caller.intent.idempotencyKey (.decided (sha256 caller.intent.payload) outcome) ∧
        c.Finished call outcome
  awaited : ∀ call result err, Begun caller (.ok (call, false)) past →
    ⟨.await call, .completed result err⟩ ∈ past →
    c.At caller.intent.idempotencyKey (.decided (sha256 caller.intent.payload) (result, err))
  rejected : ∀ err, Begun caller (.error err) past → err = .idempotencyConflict ∧
    ∃ bound, c.bindings caller.intent.idempotencyKey = some bound ∧
      bound ≠ sha256 caller.intent.payload

/-- The leader's key is running until its `finish`, and then decided as it finished. -/
def Led (c : Coordinator) (caller : Caller) (call : Nat) (past : List (Event requests)) : Prop :=
  (c.At caller.intent.idempotencyKey (.running (sha256 caller.intent.payload) call) ∧
    ∀ event ∈ past, ∀ key call result err, event.call ≠ .finish key call result err) ∨
  ∃ outcome, c.At caller.intent.idempotencyKey (.decided (sha256 caller.intent.payload) outcome) ∧
    (∃ event ∈ past, ∃ key call result err, event.call = .finish key call result err) ∧
    ∀ key call result err, ⟨.finish key call result err, ()⟩ ∈ past → outcome = (result, err)

section
variable {c : Coordinator} {caller : Caller} {call : Nat} {past : List (Event requests)}

theorem Informed.mono (formed : c.WellFormed) (time : c.Later later)
    (informed : Informed c caller past) : Informed later caller past := by
  refine ⟨fun call begun => ?_, fun call result err begun member => ?_, fun err begun => ?_⟩
  · rcases informed.follows call begun with running | ⟨outcome, decided, finished⟩
    · exact time.running _ _ _ running
    · exact .inr ⟨outcome, time.decided _ _ _ decided, time.finished _ _ finished⟩
  · exact time.decided _ _ _ (informed.awaited call result err begun member)
  · obtain ⟨conflict, bound, binds, differs⟩ := informed.rejected err begun
    exact ⟨conflict, bound, time.bindings formed binds, differs⟩

theorem Led.state (led : Led c caller call past) :
    ∃ state, state ≠ KeyState.fresh ∧ c.At caller.key state := by
  rcases led with ⟨running, -⟩ | ⟨outcome, decided, -⟩
  · exact ⟨.running _ call, nofun, running⟩
  · exact ⟨.decided _ outcome, nofun, decided⟩

theorem Led.congr (led : Led c caller call past)
    (kept : ∀ state, state ≠ .fresh → c.At caller.key state → later.At caller.key state) :
    Led later caller call past := by
  rcases led with ⟨running, unfinished⟩ | ⟨outcome, decided, rest⟩
  · exact .inl ⟨kept _ nofun running, unfinished⟩
  · exact .inr ⟨outcome, kept _ nofun decided, rest⟩

theorem informed_nil : Informed c caller [] where
  follows _ begun := absurd begun List.not_mem_nil
  awaited _ _ _ begun := absurd begun List.not_mem_nil
  rejected _ begun := absurd begun List.not_mem_nil

variable {answer : Except RailError (Nat × Bool)}

theorem begun_snoc_iff (unbegun : Unbegun past) :
    Begun caller begun (past ++ [⟨.begin caller.key caller.digest, answer⟩]) ↔ begun = answer := by
  unfold Begun
  rw [List.mem_append, List.mem_singleton]
  constructor
  · rintro (old | new)
    · cases unbegun _ old
    · simpa using new
  · rintro rfl
    exact .inr rfl

theorem informed_begin (unbegun : Unbegun past)
    (begun : c.Begins caller.key caller.digest answer later) :
    Informed later caller (past ++ [⟨.begin caller.key caller.digest, answer⟩]) := by
  refine ⟨fun call own => ?_, fun call result err own member => ?_, fun err own => ?_⟩
  · obtain rfl := (begun_snoc_iff unbegun).mp own
    cases begun with
    | follows _ running => exact .inl running
    | recalls outcome decided =>
      exact .inr ⟨outcome, decided.answerAgain, [], List.getElem?_concat_length ..⟩
  · -- Nothing was awaited before `begin`.
    rcases List.mem_append.mp member with old | new
    · cases unbegun _ old
    · cases congrArg Event.call (List.mem_singleton.mp new)
  obtain rfl := (begun_snoc_iff unbegun).mp own
  cases begun with
  | conflicts bound binds differs => exact ⟨rfl, bound, binds, differs⟩

theorem led_begin (unbegun : Unbegun past)
    (begun : c.Begins caller.key caller.digest (.ok (call, true)) later) :
    Led later caller call (past ++ [⟨.begin caller.key caller.digest, .ok (call, true)⟩]) := by
  cases begun with
  | leads fresh =>
    refine .inl ⟨fresh.lead_self, fun event member key call result err finish => ?_⟩
    rcases mem_concat.mp member with old | rfl
    · cases (unbegun event old).symm.trans finish
    · cases finish

theorem Coordinator.Begins.keeps (begun : c.Begins key digest answer later) (known : state ≠ .fresh)
    (old : c.At other state) : later.At other state := by
  cases begun with
  | leads fresh => exact old.lead_other (old.ne_of_fresh fresh known)
  | follows | conflicts => exact old
  | recalls outcome decided => exact old.answerAgain

theorem Begun.of_snoc (begun : Begun caller answer (past ++ [event]))
    (other : ∀ key digest, event.call ≠ .begin key digest) : Begun caller answer past := by
  rcases List.mem_append.mp begun with old | new
  · exact old
  · exact absurd (congrArg Event.call (List.mem_singleton.mp new)).symm (other _ _)

theorem Informed.snoc (informed : Informed c caller past)
    (unbegun : ∀ key digest, event.call ≠ .begin key digest)
    (unawaited : ∀ call result err, event ≠ ⟨.await call, .completed result err⟩) :
    Informed c caller (past ++ [event]) := by
  refine ⟨fun call own => informed.follows call (own.of_snoc unbegun),
    fun call result err own member => ?_, fun err own => informed.rejected err (own.of_snoc unbegun)⟩
  rcases List.mem_append.mp member with old | new
  · exact informed.awaited call result err (own.of_snoc unbegun) old
  · exact absurd (List.mem_singleton.mp new).symm (unawaited call result err)

theorem Informed.await (formed : c.WellFormed) (informed : Informed c caller past)
    (begun : Begun caller (.ok (call, false)) past) (finished : c.Finished call (result, err)) :
    Informed c caller (past ++ [⟨.await call, .completed result err⟩]) := by
  have decided : c.At caller.key
      (.decided caller.digest (result, err)) := by
    obtain ⟨_, found⟩ := finished
    rcases informed.follows call begun with running | ⟨outcome, decided, _, done⟩
    · obtain ⟨_, _, _, pending⟩ := formed.pending _ _ running.2.2
      exact absurd (pending.symm.trans found) (by simp)
    have same := Option.some.inj (done.symm.trans found)
    simp only [ExecutionCall.mk.injEq] at same
    obtain rfl : outcome = (result, err) := Prod.ext same.2.2.1 same.2.2.2
    exact decided
  refine ⟨fun call own => informed.follows call (own.of_snoc nofun),
    fun other result' err' own member => ?_, fun err own => informed.rejected err (own.of_snoc nofun)⟩
  rcases List.mem_append.mp member with before | new
  · exact informed.awaited other result' err' (own.of_snoc nofun) before
  have same := List.mem_singleton.mp new
  cases same
  exact decided

theorem Led.snoc (led : Led c caller call past)
    (other : ∀ key call result err, event.call ≠ .finish key call result err) :
    Led c caller call (past ++ [event]) := by
  rcases led with ⟨running, unfinished⟩ | ⟨outcome, decided, ⟨last, member, finish⟩, only⟩
  · refine .inl ⟨running, fun event member => ?_⟩
    rcases mem_concat.mp member with old | rfl
    · exact unfinished event old
    · exact other
  refine .inr ⟨outcome, decided, ⟨last, by simp [member], finish⟩, ?_⟩
  intro key call result err member
  rcases List.mem_append.mp member with old | new
  · exact only key call result err old
  · exact absurd (congrArg Event.call (List.mem_singleton.mp new)).symm (other key call result err)

end

/-! ## All callers together -/

abbrev CallersConfig := Config requests Caller (Result × Option RailError) Callers

abbrev CallerThread := Thread requests Caller (Result × Option RailError)

/-- Every caller's knowledge holds, and a key has one leader. -/
structure Sound (config : CallersConfig) : Prop where
  formed : config.shared.coordinator.WellFormed
  informed : ∀ (i : Nat) (thread : CallerThread), config.threads[i]? = some thread →
    Informed config.shared.coordinator thread.label thread.past
  led : ∀ (i : Nat) (thread : CallerThread) call, config.threads[i]? = some thread →
    Begun thread.label (.ok (call, true)) thread.past →
    Led config.shared.coordinator thread.label call thread.past
  single : ∀ (i j : Nat) (first second : CallerThread) call other, config.threads[i]? = some first →
    config.threads[j]? = some second →
    first.label.intent.idempotencyKey = second.label.intent.idempotencyKey →
    Begun first.label (.ok (call, true)) first.past →
    Begun second.label (.ok (other, true)) second.past → i = j

theorem sound_newCoordinator : Sound newCoordinator where
  formed := Coordinator.wellFormed_new
  informed _ _ found := absurd found nofun
  led _ _ _ found := absurd found nofun
  single _ _ _ _ _ _ found := absurd found nofun

section
variable {config : CallersConfig} {i : Nat} {caller : Caller} {past : List (Event requests)}
  {rest : Execution (Result × Option RailError)} {event : Event requests} {after : Callers}

/-- A request of thread `i`, from what it does to the thread itself and to the keys
other callers lead. -/
theorem Sound.answer (sound : Sound config)
    (active : config.threads[i]? = some ⟨caller, past, rest⟩)
    (formed : after.coordinator.WellFormed)
    (time : config.shared.coordinator.Later after.coordinator)
    (informed : Informed after.coordinator caller (past ++ [event]))
    (led : ∀ call, Begun caller (.ok (call, true)) (past ++ [event]) →
      Led after.coordinator caller call (past ++ [event]))
    (others : ∀ (j : Nat) (thread : CallerThread) call, j ≠ i → config.threads[j]? = some thread →
      Begun thread.label (.ok (call, true)) thread.past →
      Led after.coordinator thread.label call thread.past ∧
        ((∃ other, Begun caller (.ok (other, true)) (past ++ [event])) →
          (∃ other, Begun caller (.ok (other, true)) past) ∨
          thread.label.intent.idempotencyKey ≠ caller.key)) :
    Sound ⟨after, config.threads.set i ⟨caller, past ++ [event], next⟩⟩ := by
  refine ⟨formed, fun j thread found => ?_, fun j thread call found begun => ?_, ?_⟩
  · rcases getElem?_set_cases found with ⟨rfl, rfl⟩ | ⟨-, old⟩
    · exact informed
    · exact (sound.informed j thread old).mono sound.formed time
  · rcases getElem?_set_cases found with ⟨rfl, rfl⟩ | ⟨other, old⟩
    · exact led call begun
    · exact (others j thread call other old begun).1
  · -- A new leader is the only one; otherwise the leaders are the old ones.
    have alone : ∀ (j : Nat) (thread : CallerThread) call own, j ≠ i → config.threads[j]? = some thread →
        thread.label.intent.idempotencyKey = caller.key →
        Begun thread.label (.ok (call, true)) thread.past →
        ¬ Begun caller (.ok (own, true)) (past ++ [event]) := by
      intro j thread call own other old same begun mine
      rcases (others j thread call other old begun).2 ⟨own, mine⟩ with ⟨own, mine⟩ | differs
      · exact other (sound.single j i thread _ call own old active same begun mine)
      · exact differs same
    intro j k first second call other atFirst atSecond same begun also
    rcases getElem?_set_cases atFirst with ⟨rfl, rfl⟩ | ⟨notFirst, oldFirst⟩ <;>
      rcases getElem?_set_cases atSecond with ⟨rfl, rfl⟩ | ⟨notSecond, oldSecond⟩
    · rfl
    · exact absurd begun (alone k second other call notSecond oldSecond same.symm also)
    · exact absurd also (alone j first call other notFirst oldFirst same begun)
    · exact sound.single j k first second call other oldFirst oldSecond same begun also

theorem caller_meets (reached : callers.Reaches newCoordinator config)
    (present : ⟨caller, past, rest⟩ ∈ config.threads) :
    (∀ before event after, past = before ++ event :: after → callerGuar caller before event.call) ∧
    Meets (callerContract caller) (Returns caller) past rest := by
  obtain ⟨_, program, started, ran⟩ := reached.run_of_thread rfl present
  cases started
  refine ⟨((Execute_meets caller).run_history ran).1, ?_⟩
  have meets := ((Execute_meets caller).run ran (relied_anyAnswer _ _)).2
  rwa [foldl_observe_onHistory, List.nil_append] at meets

section
variable (sound : Sound config) (active : config.threads[i]? = some ⟨caller, past, rest⟩)
include sound active

theorem Sound.quiet (same : after.coordinator = config.shared.coordinator)
    (unbegun : ∀ key digest, event.call ≠ .begin key digest)
    (unfinished : ∀ key call result err, event.call ≠ .finish key call result err)
    (informed : Informed config.shared.coordinator caller (past ++ [event])) :
    Sound ⟨after, config.threads.set i ⟨caller, past ++ [event], next⟩⟩ := by
  refine sound.answer active ?_ ?_ ?_ (fun call begun => ?_) fun j thread call other found begun => ?_
  · exact same ▸ sound.formed
  · exact same ▸ .refl
  · exact same ▸ informed
  · rw [same]
    exact (sound.led i _ call active (begun.of_snoc unbegun)).snoc unfinished
  rw [same]
  exact ⟨sound.led j thread call found begun, fun ⟨own, mine⟩ => .inl ⟨own, mine.of_snoc unbegun⟩⟩

theorem Sound.begin {answer : Except RailError (Nat × Bool)} (unbegun : Unbegun past)
    (begun : config.shared.coordinator.Begins caller.key caller.digest answer after.coordinator) :
    Sound ⟨after, config.threads.set i ⟨caller, past ++ [⟨.begin caller.key caller.digest, answer⟩], next⟩⟩ := by
  refine sound.answer active (begun.wellFormed sound.formed) begun.moves
    (informed_begin unbegun begun) (fun call own => ?_) fun j thread call other found led => ?_
  · obtain rfl := (begun_snoc_iff unbegun).mp own
    exact led_begin unbegun begun
  have holds := sound.led j thread call found led
  refine ⟨holds.congr fun _ known old => begun.keeps known old, fun ⟨own, mine⟩ => .inr ?_⟩
  -- The key was fresh for the new leader, and is not for the old one.
  obtain rfl := (begun_snoc_iff unbegun).mp mine
  obtain ⟨state, known, represents⟩ := holds.state
  exact represents.ne_of_fresh begun.fresh known

theorem Sound.finish (begun : Begun caller (.ok (call, true)) past)
    (unfinished : ∀ event ∈ past, ∀ key call result err, event.call ≠ .finish key call result err)
    (zero : err ≠ none → result = {})
    (finished : after.coordinator = config.shared.coordinator.finish caller.key call result err) :
    Sound ⟨after, config.threads.set i ⟨caller,
      past ++ [⟨.finish caller.key call result err, ()⟩], next⟩⟩ := by
  have running : config.shared.coordinator.At caller.key
      (.running caller.digest call) := by
    rcases sound.led i _ call active begun with ⟨running, -⟩ | ⟨_, -, ⟨event, member, finish⟩, -⟩
    · exact running
    · obtain ⟨key, call, result, err, finish⟩ := finish
      exact absurd finish (unfinished event member key call result err)
  have time := Coordinator.later_finish sound.formed running zero
  rw [← finished] at time
  have told : Informed config.shared.coordinator caller
      (past ++ [⟨.finish caller.key call result err, ()⟩]) :=
    (sound.informed i _ active).snoc (fun _ _ => Request.noConfusion)
      fun _ _ _ same => absurd (congrArg Event.call same) Request.noConfusion
  refine sound.answer active ?_ time ?_ (fun other own => ?_) fun j thread other differs found led => ?_
  · exact finished ▸ sound.formed.finish running zero
  · exact told.mono sound.formed time
  · refine .inr ⟨(result, err), finished ▸ running.finish_self zero, ?_, ?_⟩
    · exact ⟨_, List.mem_concat_self, _, _, _, _, rfl⟩
    intro key call result err member
    rcases List.mem_append.mp member with old | new
    · exact absurd rfl (unfinished _ old key call result err)
    · cases List.mem_singleton.mp new
      rfl
  have apart : thread.label.intent.idempotencyKey ≠ caller.key := fun same =>
    differs (sound.single j i thread _ other call found active same led begun)
  refine ⟨(sound.led j thread other found led).congr fun state _ old => ?_, fun _ => .inr apart⟩
  rw [finished]
  exact old.finish_other apart

end

theorem Sound.exec {next : request.Answer → Execution (Result × Option RailError)}
    {answer : request.Answer} (sound : Sound config)
    (active : config.threads[i]? = some ⟨caller, past, .call request next⟩)
    (allowed : callerGuar caller past request)
    (effect : Effect config.shared ⟨request, answer⟩ after) :
    Sound ⟨after, config.threads.set i ⟨caller, past ++ [⟨request, answer⟩], next answer⟩⟩ := by
  have informed := sound.informed i _ active
  cases request with
  | begin key digest =>
    obtain ⟨rfl, rfl, unbegun⟩ := allowed
    exact sound.begin active unbegun effect
  | await call =>
    cases answer with
    | completed result err =>
      obtain ⟨same, finished⟩ := effect
      exact sound.quiet active same nofun nofun (informed.await sound.formed allowed finished)
    | contextEnded err => exact sound.quiet active effect nofun nofun (informed.snoc nofun nofun)
  | finish key call result err =>
    obtain ⟨rfl, begun, unfinished, zero⟩ := allowed
    exact sound.finish active begun unfinished zero effect
  | now | submit | query => exact sound.quiet active effect nofun nofun (informed.snoc nofun nofun)

theorem Sound.spawn (sound : Sound config) (caller : Caller)
    (program : Execution (Result × Option RailError)) :
    Sound { config with threads := config.threads ++ [⟨caller, [], program⟩] } := by
  refine ⟨sound.formed, fun j thread found => ?_, fun j thread call found begun => ?_, ?_⟩
  · rcases getElem?_concat_cases found with ⟨-, rfl⟩ | old
    · exact informed_nil
    · exact sound.informed j thread old
  · rcases getElem?_concat_cases found with ⟨-, rfl⟩ | old
    · cases begun
    · exact sound.led j thread call old begun
  intro j k first second call other atFirst atSecond same begun also
  rcases getElem?_concat_cases atFirst with ⟨-, rfl⟩ | oldFirst
  · cases begun
  rcases getElem?_concat_cases atSecond with ⟨-, rfl⟩ | oldSecond
  · cases also
  · exact sound.single j k first second call other oldFirst oldSecond same begun also

theorem sound_of_reaches (reached : callers.Reaches newCoordinator config) : Sound config := by
  induction reached with
  | refl => exact sound_newCoordinator
  | tail action before taken sound =>
    rcases Machine.next_cases taken with ⟨caller, program, -, rfl⟩ |
      ⟨i, caller, past, request, next, choice, answer, shared, active, executed, rfl⟩ |
      ⟨event, shared, ended, rfl⟩
    · exact sound.spawn caller program
    · have meets := (caller_meets before (List.mem_of_getElem? active)).2
      exact sound.exec active meets.1 (exec_effect (i := i) sound.formed executed)
    simp only [callers] at ended
    split at ended
    · cases ended
      exact ⟨sound.formed, sound.informed, sound.led, sound.single⟩
    · cases ended

/-! ## What callers are given -/

/-- What the coordinator says to a caller with this key and payload. -/
def Coordinator.Tells (c : Coordinator) (key : String) (digest : List UInt8)
    (value : Result × Option RailError) : Prop :=
  c.At key (.decided digest value) ∨
    value = ({}, some .idempotencyConflict) ∧ ∃ bound, c.bindings key = some bound ∧ bound ≠ digest

theorem Coordinator.Tells.unique {c : Coordinator} (first : c.Tells key digest value)
    (second : c.Tells key digest other) : value = other := by
  rcases first with decided | ⟨rfl, bound, binds, differs⟩ <;>
    rcases second with also | ⟨rfl, bound', binds', differs'⟩
  · cases decided.unique also
    rfl
  · exact absurd (Option.some.inj (binds'.symm.trans decided.1)) differs'
  · exact absurd (Option.some.inj (binds.symm.trans also.1)) differs
  · rfl

/-- A caller that was let in is given what the coordinator says of its key. -/
theorem Sound.told (sound : Sound config) (present : config.threads[i]? = some ⟨caller, past, rest⟩)
    (returned : Returns caller past value) (admitted : ¬ Refused caller past)
    (waited : ¬ GaveUp past) :
    config.shared.coordinator.Tells caller.key caller.digest
      value := by
  cases returned with
  | refused _ refused => exact absurd refused admitted
  | gaveUp _ gaveUp => exact absurd gaveUp waited
  | rejected err begun =>
    obtain ⟨rfl, bound⟩ := (sound.informed i _ present).rejected err begun
    exact .inr ⟨rfl, bound⟩
  | followed call result err begun awaited =>
    exact .inl ((sound.informed i _ present).awaited call result err begun awaited)
  | led call result err begun finished =>
    rcases sound.led i _ call present begun with ⟨-, unfinished⟩ | ⟨outcome, decided, -, only⟩
    · exact absurd rfl (unfinished _ finished _ _ _ _)
    · rw [← only _ _ _ _ finished]
      exact .inl decided

/-- Only leaders submit. -/
theorem leads_of_submits
    (reached : callers.Reaches newCoordinator config) (present : thread ∈ config.threads)
    (called : ∃ event ∈ thread.past, submits role key event = true) :
    thread.label.intent.idempotencyKey = key ∧
      ∃ call, Begun thread.label (.ok (call, true)) thread.past := by
  obtain ⟨⟨request, answer⟩, member, counted⟩ := called
  obtain ⟨before, after, split⟩ := List.append_of_mem member
  have allowed := (caller_meets reached present).1 before _ after split
  cases request with
  | submit used intent =>
    obtain ⟨rfl, ⟨call, begun⟩, -⟩ := allowed
    refine ⟨(of_decide_eq_true counted).2, call, ?_⟩
    rw [split]
    exact List.mem_append_left _ begun
  | _ => cases counted

theorem submissions_length_le_one (reached : callers.Reaches newCoordinator config) (role : Role)
    (key : String) : (submissions config role key).length ≤ 1 := by
  refine Config.asked_length_le_one (fun thread present => ?_)
    fun i j first second atFirst atSecond called also => ?_
  · refine filter_length_le_one fun before event after split counted earlier member => ?_
    have allowed := (caller_meets reached present).1 before event after split
    obtain ⟨request, answer⟩ := event
    cases request with
    | submit used intent =>
      obtain ⟨rfl, -, unused, -⟩ := allowed
      obtain ⟨rfl, rfl⟩ := of_decide_eq_true counted
      exact unused earlier member
    | _ => cases counted
  obtain ⟨sameFirst, call, begun⟩ :=
    leads_of_submits reached (List.mem_of_getElem? atFirst) called
  obtain ⟨sameSecond, other, begunToo⟩ :=
    leads_of_submits reached (List.mem_of_getElem? atSecond) also
  exact (sound_of_reaches reached).single i j first second call other atFirst atSecond
    (sameFirst.trans sameSecond.symm) begun begunToo

/-- In every run of any number of callers, under every key each rail is submitted to
at most once, the secondary only after the primary has proved that it had no effect;
and callers with one key and payload that were neither refused for their arguments
nor given up on by their own context are given the same result and error. -/
theorem execute_is_single_flight (reached : callers.Reaches newCoordinator config) (key : String) :
    (submissions config .primary key).length ≤ 1 ∧
    (submissions config .secondary key).length ≤ 1 ∧
    (∀ thread ∈ config.threads, ∀ before intent answer after,
      thread.past = before ++ ⟨.submit .secondary intent, answer⟩ :: after →
      ProvedNoEffect intent before) ∧
    ∀ first ∈ config.threads, ∀ second ∈ config.threads, ∀ value other,
      first.label.intent.idempotencyKey = key → second.label.intent.idempotencyKey = key →
      first.label.intent.payload = second.label.intent.payload →
      ¬ Refused first.label first.past → ¬ Refused second.label second.past →
      ¬ GaveUp first.past → ¬ GaveUp second.past →
      first.rest = .ret value → second.rest = .ret other → value = other := by
  refine ⟨submissions_length_le_one reached .primary key,
    submissions_length_le_one reached .secondary key, ?_, ?_⟩
  · intro thread present before intent answer after split
    obtain ⟨rfl, -, -, proved⟩ := (caller_meets reached present).1 before _ after split
    exact proved rfl
  have sound := sound_of_reaches reached
  have told : ∀ thread ∈ config.threads, ∀ value, ¬ Refused thread.label thread.past →
      ¬ GaveUp thread.past → thread.rest = .ret value → config.shared.coordinator.Tells
        thread.label.intent.idempotencyKey (sha256 thread.label.intent.payload) value := by
    intro thread present value admitted waited returned
    obtain ⟨j, found⟩ := List.getElem?_of_mem present
    have meets := (caller_meets reached present).2
    rw [returned] at meets
    exact sound.told found meets admitted waited
  intro first left second right value other keyFirst keySecond payload admitted admitted'
    waited waited' returned returned'
  have one := told first left value admitted waited returned
  have two := told second right other admitted' waited' returned'
  rw [keyFirst, payload] at one
  rw [keySecond] at two
  exact one.unique two

end

/-! ## A follower, and a caller that comes too late -/

/-- A payment that expires at 100. -/
def expiringIntent : Intent where
  id := "i4"
  idempotencyKey := "k4"
  expiresAt := 100
  payload := [1, 0, 0]

def expiringCaller : Caller where
  intent := expiringIntent
  primary := some ⟨"yellow_card"⟩
  secondary := some ⟨"bank"⟩

def acceptedOnce : Result :=
  ⟨"i4", "yellow_card", "p1", .submitted, ""⟩

def followedSchedule : List (Action Caller Choice ContextEnd) :=
  [.spawn expiringCaller, .exec 0 (.clock 50), .exec 0 .proceeds,
    .spawn expiringCaller, .exec 1 (.clock 60), .exec 1 .proceeds,
    .exec 0 (.rail ⟨"p1", .submitted, false, ""⟩ none), .exec 0 .proceeds, .exec 1 .proceeds]

/-- Leader and follower are given the one submission. -/
theorem follower_is_given_the_submission :
    ∃ config, callers.Reaches newCoordinator config ∧
      config.threads.map (·.rest.returned) = [some (acceptedOnce, none), some (acceptedOnce, none)] ∧
      (submissions config .primary "k4").length ≤ 1 := by
  have played : ∃ config, callers.Reaches newCoordinator config ∧
      config.threads.map (·.rest.returned) =
        [some (acceptedOnce, none), some (acceptedOnce, none)] :=
    Machine.exists_of_replay followedSchedule (by decide +kernel)
  obtain ⟨config, reached, returned⟩ := played
  exact ⟨config, reached, returned, (execute_is_single_flight reached "k4").1⟩

/-- The second caller comes after the intent has expired. -/
def lateSchedule : List (Action Caller Choice ContextEnd) :=
  [.spawn expiringCaller, .exec 0 (.clock 50), .exec 0 .proceeds,
    .exec 0 (.rail ⟨"p1", .submitted, false, ""⟩ none), .exec 0 .proceeds,
    .spawn expiringCaller, .exec 1 (.clock 150)]

/-- Two calls with one key and payload, neither with a context that can end: the
first is given the submission, the second `ErrExpired`. -/
theorem late_caller_is_refused :
    ∃ config first second, callers.Reaches newCoordinator config ∧
      config.threads = [first, second] ∧ first.label = expiringCaller ∧
      second.label = expiringCaller ∧ expiringCaller.ctx = none ∧
      first.rest = .ret (acceptedOnce, none) ∧ second.rest = .ret ({}, some .expired) := by
  have played : ∃ config, callers.Reaches newCoordinator config ∧
      config.threads.map (fun thread => (thread.label, thread.rest.returned)) =
        [(expiringCaller, some (acceptedOnce, none)), (expiringCaller, some ({}, some .expired))] :=
    Machine.exists_of_replay lateSchedule (by decide)
  obtain ⟨config, reached, ended⟩ := played
  obtain ⟨first, others, threads, own, ended⟩ := List.map_eq_cons_iff.mp ended
  obtain ⟨second, none_, rfl, also, ended⟩ := List.map_eq_cons_iff.mp ended
  cases List.map_eq_nil_iff.mp ended
  exact ⟨config, first, second, reached, threads, congrArg Prod.fst own, congrArg Prod.fst also, rfl,
    Program.eq_ret_of_returned (congrArg Prod.snd own),
    Program.eq_ret_of_returned (congrArg Prod.snd also)⟩

end UmojaFlowOS.Multirail
