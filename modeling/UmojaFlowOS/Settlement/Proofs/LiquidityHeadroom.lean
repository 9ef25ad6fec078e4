import Mathlib.Algebra.Order.BigOperators.Group.Finset
import UmojaFlowOS.Interaction.Guarded
import UmojaFlowOS.Settlement.LiquidityAdmission
import UmojaFlowOS.Settlement.Proofs.CoordinatorRuns
import UmojaFlowOS.Settlement.Proofs.LiquidityPolicy

/-!
# The headroom of treasury evidence

`Verify` reads `reserved_minor` but nothing ever raises it, and the admission lock
is released before the saga advances. So each admission is judged as if it were
the first on its row.
-/

namespace UmojaFlowOS.Settlement.Liquidity

open Go Interaction

attribute [local irreducible] trimSpace liquidityLockKey liquidityCacheKey

/-! ## What a run has seen before it is admitted -/

def Passed (intent : Intent) (e : LiquidityEvidence) : Prop :=
  ∃ route now verdict, verifyLiquidityEvidence intent route e now = (verdict, none)

/-- A row that passes was shown. -/
def Grounded (intent : Intent) (history : List (Event admission)) : Prop :=
  ∃ e, Passed intent e ∧ some e ∈ history.map shownRow

def Unshown (history : List (Event admission)) : Prop :=
  ∀ event ∈ history, shownRow event = none

/-- The query is made once and for a positive amount, and the saga is advanced to
`liquidity_reserved` only after the row shown has passed. -/
def admissionGuar (intent : Intent) (history : List (Event admission)) : AdmissionCall → Prop
  | .verifier (.selectEvidence _ _ _ _) => 0 < intent.amountMinor ∧ Unshown history
  | .outside (.store (.advance _ .liquidityReserved _)) => Grounded intent history
  | _ => True

abbrev admissionContract (intent : Intent) : Contract admission (List (Event admission)) :=
  onHistory anyAnswer (admissionGuar intent)

/-- The ports that neither verify liquidity nor record its admission. -/
def Quiet : Port → Prop
  | .verifyLiquidity _ _ => False
  | .store (.advance _ .liquidityReserved _) => False
  | _ => True

abbrev quietly : Contract ports Unit := ⟨fun _ _ => True, fun _ => Quiet, fun _ _ => ()⟩

/-- Code that calls such ports only. -/
abbrev KeepsQuiet {α : Type} (program : Saga α) : Prop := Meets quietly (fun _ _ => True) () program

theorem quiet_call_bind (quiet : Quiet port) (later : ∀ answer, KeepsQuiet (rest answer)) :
    KeepsQuiet (call port >>= rest) :=
  meets_ask_bind.mpr ⟨quiet, fun answer _ => later answer⟩

theorem quiet_unknown : KeepsQuiet (unknown record reason cause) := by
  refine quiet_call_bind trivial fun err => ?_
  cases err with
  | none | some => trivial

theorem quiet_hold : KeepsQuiet (hold record reason cause) := by
  refine quiet_call_bind trivial fun err => ?_
  split
  · exact quiet_unknown
  · trivial

theorem quiet_unknownEffects : KeepsQuiet (unknownEffects record reason cause) :=
  quiet_unknown.bind fun _ _ _ => trivial

theorem quiet_advance_bind (other : stage ≠ .liquidityReserved)
    (fails : ∀ {record err}, KeepsQuiet (rest (record, some err)))
    (succeeds : ∀ record, KeepsQuiet (rest (record, none))) :
    KeepsQuiet (advance record stage update >>= rest) := by
  refine quiet_call_bind ?_ ?_
  · cases stage <;> trivial
  rintro ⟨record, _ | err⟩
  · exact succeeds record
  · exact fails

theorem quiet_handlePreCustodyFailure :
    KeepsQuiet (handlePreCustodyFailure intent record pending result label cause) := by
  unfold handlePreCustodyFailure
  split
  · refine quiet_call_bind trivial fun err => ?_
    split
    · exact quiet_unknownEffects
    · exact quiet_hold.bind fun _ _ _ => trivial
  · exact quiet_unknownEffects

theorem quiet_executeOnrampEffects : KeepsQuiet (executeOnrampEffects intent record pending) := by
  refine quiet_call_bind trivial fun (fiat, err) => ?_
  dsimp only
  split
  · exact quiet_handlePreCustodyFailure
  refine quiet_advance_bind (by decide) quiet_unknownEffects fun record => ?_
  refine quiet_call_bind trivial fun (custody, err) => ?_
  split
  · exact quiet_unknownEffects
  refine quiet_advance_bind (by decide) quiet_unknownEffects fun record => ?_
  refine quiet_call_bind trivial fun (final, err) => ?_
  split
  · exact quiet_unknownEffects
  exact quiet_advance_bind (by decide) quiet_unknownEffects fun _ => trivial

theorem quiet_executeOfframpEffects : KeepsQuiet (executeOfframpEffects intent record) := by
  refine quiet_call_bind trivial fun (custody, err) => ?_
  dsimp only
  split
  · exact quiet_unknownEffects
  refine quiet_advance_bind (by decide) quiet_unknownEffects fun record => ?_
  refine quiet_call_bind trivial fun (final, err) => ?_
  split
  · exact quiet_unknownEffects
  refine quiet_advance_bind (by decide) quiet_unknownEffects fun record => ?_
  refine quiet_call_bind trivial fun (fiat, err) => ?_
  split
  · exact quiet_unknownEffects
  exact quiet_advance_bind (by decide) quiet_unknownEffects fun _ => trivial

theorem quiet_executeEffects : KeepsQuiet (executeEffects intent record pending) := by
  unfold executeEffects
  split
  · exact quiet_executeOnrampEffects
  · exact quiet_executeOfframpEffects

theorem quiet_settleEffects [CaseTables] :
    KeepsQuiet (settleEffects intent digest record pending outcome) := by
  refine quiet_call_bind trivial fun (committed, err) => ?_
  dsimp only
  split
  · exact quiet_unknown
  split
  · exact quiet_unknown
  split
  · exact quiet_unknown
  refine quiet_advance_bind (by decide) quiet_unknown fun record => ?_
  refine quiet_call_bind trivial fun (att, err) => ?_
  split
  · exact quiet_unknown
  refine quiet_call_bind trivial fun (verified, err) => ?_
  split
  · exact quiet_unknown
  refine quiet_advance_bind (by decide) quiet_unknown fun record => ?_
  split
  · exact quiet_unknown
  split
  · exact quiet_unknown
  exact quiet_advance_bind (by decide) quiet_unknown fun _ => trivial

/-! ## Runs over their verifier -/

section
variable {intent : Intent} {α : Type} {history : List (Event admission)}
  {post : List (Event admission) → α → Prop}

/-- Quiet code keeps the contract, whatever was shown before. -/
theorem Meets.quietly (quiet : KeepsQuiet program)
    (history : List (Event admission)) :
    Meets (admissionContract intent) (fun _ _ => True) history (program.link (serveExecution v)) := by
  refine Meets.link (fun port seen quiet => ?_) quiet history
  cases port with
  | verifyLiquidity => exact absurd quiet id
  | store call =>
    cases call with
    | advance record stage update =>
      refine ⟨?_, fun _ _ => trivial⟩
      cases stage <;> trivial
    | _ => exact ⟨trivial, fun _ _ => trivial⟩
  | _ => exact ⟨trivial, fun _ _ => trivial⟩

theorem unshown_call_bind (quiet : Quiet port) (unshown : Unshown history)
    (later : ∀ answer later, Unshown later →
      Meets (admissionContract intent) post later ((rest answer).link (serveExecution v))) :
    Meets (admissionContract intent) post history
      ((call port >>= rest).link (serveExecution v)) := by
  have snoc : ∀ answer : port.Answer, Unshown (history ++ [⟨.outside port, answer⟩]) :=
    fun answer => List.forall_mem_append.mpr ⟨unshown, List.forall_mem_singleton.mpr rfl⟩
  cases port with
  | verifyLiquidity => exact absurd quiet id
  | store call =>
    cases call with
    | advance record stage update =>
      refine ⟨?_, fun answer _ => later answer _ (snoc answer)⟩
      cases stage <;> trivial
    | _ => exact ⟨trivial, fun answer _ => later answer _ (snoc answer)⟩
  | _ => exact ⟨trivial, fun answer _ => later answer _ (snoc answer)⟩

theorem ask_link_bind (other : ∀ answer, shownRow ⟨.verifier request, answer⟩ = none)
    (later : ∀ answer, Meets (admissionContract intent) post
      (history ++ [⟨.verifier request, answer⟩]) ((rest answer).link askVerifier)) :
    Meets (admissionContract intent) post history ((ask request >>= rest).link askVerifier) := by
  refine ⟨?_, fun answer _ => later answer⟩
  cases request with
  | selectEvidence => cases other (.ok {})
  | _ => trivial

theorem Unshown.snoc (unshown : Unshown history) (event : Event admission)
    (other : shownRow event = none) : Unshown (history ++ [event]) :=
  List.forall_mem_append.mpr ⟨unshown, List.forall_mem_singleton.mpr other⟩

theorem unshown_tryLock (key token : String) (ttl delay : Int) (attempts : Nat)
    (unshown : Unshown history) :
    Meets (admissionContract intent) (fun later _ => Unshown later) history
      ((tryLock key token ttl delay attempts).link askVerifier) := by
  induction attempts generalizing history with
  | zero => exact unshown
  | succ attempts ih =>
    refine ask_link_bind (fun _ => rfl) fun answer => ?_
    have unshown := unshown.snoc ⟨.verifier (.setNX key token ttl), answer⟩ rfl
    match answer with
    | .error _ => exact unshown
    | .ok true => exact unshown
    | .ok false =>
      refine ask_link_bind (fun _ => rfl) fun err => ?_
      have unshown := unshown.snoc ⟨.verifier (.wait delay), err⟩ rfl
      cases err with
      | none => exact ih unshown
      | some _ => exact unshown

theorem unshown_acquireLock (key : String) (unshown : Unshown history) :
    Meets (admissionContract intent) (fun later _ => Unshown later) history
      ((acquireLock v key).link askVerifier) := by
  unfold acquireLock
  split
  · split
    · exact unshown
    · exact unshown
  refine ask_link_bind (fun _ => rfl) fun answer => ?_
  have unshown := unshown.snoc ⟨.verifier .newToken, answer⟩ rfl
  cases answer with
  | error _ => exact unshown
  | ok token => exact unshown_tryLock _ _ _ _ _ unshown

theorem Grounded.snoc (grounded : Grounded intent history) (event : Event admission) :
    Grounded intent (history ++ [event]) := by
  obtain ⟨e, passed, shown⟩ := grounded
  exact ⟨e, passed, List.map_subset _ (List.subset_append_left _ _) shown⟩

def Verified (intent : Intent) (history : List (Event admission))
    (result : Verdict × Option GoError) : Prop :=
  result.2 = none → Grounded intent history

theorem Verified.snoc (verified : Verified intent history result)
    (event : Event admission) : Verified intent (history ++ [event]) result :=
  fun passed => (verified passed).snoc event

section
variable (positive : 0 < intent.amountMinor)
include positive

section
variable (route : RouteDecision)

/-- The verifier passes only what it was shown in this transaction. -/
theorem verifyTx_meets (now : Time) (unshown : Unshown history) :
    Meets (admissionContract intent) (Verified intent) history
      ((verifyTx v intent route now).link askVerifier) := by
  refine ⟨⟨positive, unshown⟩, fun answer _ => ?_⟩
  rcases answer with err | e
  · exact nofun
  refine ask_link_bind (fun _ => rfl) fun err => ?_
  split
  · exact nofun
  generalize judged : verifyLiquidityEvidence intent route e now = verdict
  obtain ⟨verdict, err⟩ := verdict
  dsimp only
  split
  · rename_i refused
    exact fun passed => by simp [show err = none from passed] at refused
  rename_i passed
  rw [Option.not_isSome_iff_eq_none] at passed
  subst passed
  have grounded : Grounded intent (history ++ [⟨.verifier (.selectEvidence intent.tenantID
      route.route.id route.provider route.route.sourceCurrency), .ok e⟩]) :=
    ⟨e, ⟨route, now, verdict, judged⟩, by simp [shownRow]⟩
  split
  · exact ask_link_bind (fun _ => rfl) fun _ _ => (grounded.snoc _).snoc _
  · exact fun _ => grounded.snoc _

theorem verifyLocked_meets (now : Time) (unshown : Unshown history) :
    Meets (admissionContract intent) (Verified intent) history
      ((verifyLocked v intent route now).link askVerifier) := by
  refine ask_link_bind (fun _ => rfl) fun err => ?_
  have unshown := unshown.snoc ⟨.verifier .beginTx, err⟩ rfl
  split
  · exact nofun
  rw [Program.link_bind]
  refine (verifyTx_meets positive route now unshown).bind fun later result verified => ?_
  exact ask_link_bind (fun _ => rfl) fun _ => verified.snoc _

theorem verify_meets (unshown : Unshown history) :
    Meets (admissionContract intent) (Verified intent) history
      ((verify v intent route).link askVerifier) := by
  refine ask_link_bind (fun _ => rfl) fun now => ?_
  have unshown := unshown.snoc ⟨.verifier .now, now⟩ rfl
  split
  · exact nofun
  split
  · exact nofun
  split
  · exact nofun
  rw [Program.link_bind]
  refine (unshown_acquireLock _ unshown).bind fun later held unshown => ?_
  rcases held with _ | held
  · exact nofun
  rw [Program.link_bind]
  refine (verifyLocked_meets positive route now unshown).bind fun last result verified => ?_
  cases held with
  | none => exact verified
  | some held => exact ask_link_bind (fun _ => rfl) fun _ => verified.snoc _

end

theorem verify_call_bind {rest : LiquidityDecision × Option GoError → Saga α}
    (unshown : Unshown history) (later : ∀ later answer, (answer.2 = none → Grounded intent later) →
      Meets (admissionContract intent) post later ((rest answer).link (serveExecution v))) :
    Meets (admissionContract intent) post history
      ((call (.verifyLiquidity intent route) >>= rest).link (serveExecution v)) := by
  have served : Meets (admissionContract intent)
      (fun later answer => answer.2 = none → Grounded intent later) history
      (serveExecution v (.verifyLiquidity intent route)) :=
    (verify_meets positive route unshown).bind fun _ _ verified => verified
  exact served.bind later

end

theorem grounded_advance_bind (grounded : Grounded intent history)
    (quiet : ∀ answer, KeepsQuiet (rest answer)) :
    Meets (admissionContract intent) (fun _ _ => True) history
      ((advance record .liquidityReserved update >>= rest).link (serveExecution v)) :=
  ⟨grounded, fun answer _ => Meets.quietly (quiet answer) _⟩

/-! ## The whole run -/

variable [CaseTables]

theorem admitIntent_admits (positive : 0 < intent.amountMinor) (record : SettlementRecord)
    (unshown : Unshown history)
    (quiet : ∀ record pending, KeepsQuiet (effects record pending)) :
    Meets (admissionContract intent) (fun _ _ => True) history
      ((admitIntent intent record effects).link (serveExecution v)) := by
  refine unshown_call_bind trivial unshown fun (screen, err) history₁ unshown => ?_
  refine meets_link_ite (fun _ => Meets.quietly quiet_hold _) fun _ => ?_
  refine meets_link_ite (fun _ => Meets.quietly quiet_hold _) fun _ => ?_
  refine unshown_call_bind trivial unshown fun (record, err) history₂ unshown => ?_
  refine meets_link_ite (fun _ => Meets.quietly quiet_unknown _) fun _ => ?_
  refine unshown_call_bind trivial unshown fun (route, err) history₃ unshown => ?_
  refine meets_link_ite (fun _ => Meets.quietly quiet_hold _) fun _ => ?_
  refine unshown_call_bind trivial unshown fun (record, err) history₄ unshown => ?_
  refine meets_link_ite (fun _ => Meets.quietly quiet_unknown _) fun _ => ?_
  refine verify_call_bind positive unshown ?_
  rintro history₅ ⟨liquidity, err⟩ verified
  refine meets_link_ite (fun _ => Meets.quietly quiet_hold _) fun allowed => ?_
  have grounded : Grounded intent history₅ := verified (by simpa using not_or.mp allowed |>.1)
  refine grounded_advance_bind grounded fun (record, err) => ?_
  dsimp only
  split
  · exact quiet_unknown
  refine quiet_call_bind trivial fun (pending, err) => ?_
  split
  · exact quiet_unknown
  split
  · exact quiet_unknown
  split
  · exact quiet_unknown
  exact quiet_advance_bind (by decide) quiet_unknown fun record => quiet record _

/-- Every run of `Execute` over its verifier keeps the contract. -/
theorem execute_admits (c : Coordinator) (v : PostgresRedisLiquidityVerifier) (intent : Intent) :
    Meets (admissionContract intent) (fun _ _ => True) []
      ((execute c intent).link (serveExecution v)) := by
  refine unshown_call_bind trivial (fun _ none_ => absurd none_ List.not_mem_nil)
    fun now history₁ unshown => ?_
  split
  · trivial
  rename_i valid
  have passes : validateIntent now intent = none := Option.eq_none_iff_forall_ne_some.mpr valid
  have positive := (validateIntent_eq_none_iff.mp passes).1.amountMinor
  split
  · trivial
  refine unshown_call_bind trivial unshown fun (record, owned, err) history₂ unshown => ?_
  dsimp only
  split
  · trivial
  split
  · trivial
  refine admitIntent_admits positive record unshown fun record pending => ?_
  refine quiet_executeEffects.bind fun _ _ _ => ?_
  dsimp only
  split
  · trivial
  · exact quiet_settleEffects

end

/-! ## What an admitted run has verified -/

def Orderly (intent : Intent) (past : List (Event admission)) : Prop :=
  ∀ before event after, past = before ++ event :: after → admissionGuar intent before event.call

theorem orderly_of_reaches [CaseTables] (reached : executions.Reaches emptyTreasury config)
    (present : run ∈ config.threads) : Orderly run.label.intent run.past := by
  obtain ⟨shared, program, spawned, ran⟩ := reached.run_of_thread rfl present
  cases spawned
  exact ((execute_admits _ _ _).run_history ran).1

section
variable {intent : Intent} {past : List (Event admission)} {e : LiquidityEvidence}

theorem unshown_of_shown (shown : shownRow event = some e)
    (allowed : admissionGuar intent before event.call) :
    0 < intent.amountMinor ∧ Unshown before := by
  obtain ⟨call, answer⟩ := event
  cases call with
  | outside port => cases shown
  | verifier call =>
    cases call with
    | selectEvidence => exact allowed
    | _ => cases shown

/-- A run is shown one row. -/
theorem Orderly.row_unique (orderly : Orderly intent past)
    (present : first ∈ past) (shown : shownRow first = some e)
    (present' : second ∈ past) (shown' : shownRow second = some other) : e = other := by
  obtain ⟨before, after, rfl⟩ := List.append_of_mem present
  rcases List.mem_append.mp present' with early | rest
  · have unshown := (unshown_of_shown shown (orderly before first after rfl)).2 second early
    cases unshown.symm.trans shown'
  rcases List.mem_cons.mp rest with rfl | late
  · exact Option.some.inj (shown.symm.trans shown')
  obtain ⟨middle, last, rfl⟩ := List.append_of_mem late
  have allowed := orderly (before ++ first :: middle) second last (by simp)
  have unshown := (unshown_of_shown shown' allowed).2 first (by simp)
  cases unshown.symm.trans shown

theorem grounded_of_reserves (reserved : reserves event = true)
    (allowed : admissionGuar intent before event.call) : Grounded intent before := by
  unfold reserves at reserved
  split at reserved
  · exact allowed
  · cases reserved

theorem Orderly.positive (orderly : Orderly intent past) (present : event ∈ past)
    (shown : shownRow event = some e) : 0 < intent.amountMinor := by
  obtain ⟨before, after, rfl⟩ := List.append_of_mem present
  exact (unshown_of_shown shown (orderly before event after rfl)).1

/-- When the saga of a run advances to `liquidity_reserved`, the row it was shown has passed
and was shown before. -/
theorem Orderly.passed (orderly : Orderly run.label.intent run.past)
    (against : admittedAgainst e run = true) :
    Passed run.label.intent e ∧ ∃ before event after, run.past = before ++ event :: after ∧
      before.any (shownRow · = some e) = true := by
  obtain ⟨shown, reserved⟩ := Bool.and_eq_true_iff.mp against
  obtain ⟨event, seen, reserved⟩ := List.any_eq_true.mp reserved
  obtain ⟨first, present, shown⟩ := List.any_eq_true.mp shown
  obtain ⟨before, after, split_⟩ := List.append_of_mem seen
  obtain ⟨row, passed, listed⟩ := grounded_of_reserves reserved (orderly before event after split_)
  obtain ⟨second, early, shown'⟩ := List.mem_map.mp listed
  have present' : second ∈ run.past := split_ ▸ List.mem_append_left _ early
  obtain rfl := orderly.row_unique present (of_decide_eq_true shown) present' shown'
  exact ⟨passed, before, event, after, split_,
    List.any_eq_true.mpr ⟨second, early, decide_eq_true shown'⟩⟩

end

/-- An amount that passed fits into the headroom exactly if its sum with the buffer does
not overflow. -/
theorem Passed.le_headroom_iff (passed : Passed intent e) :
    intent.amountMinor.toInt ≤ headroom e ↔
      intent.amountMinor.toInt + e.requiredBufferMinor.toInt < 2 ^ 63 := by
  obtain ⟨route, now, verdict, judged⟩ := passed
  unfold verifyLiquidityEvidence at judged
  have passes := congrArg Prod.snd judged
  simp only [apply_ite Prod.snd] at passes
  split_ifs at passes with identity fresh sound room
  simp only [not_or, Int64.not_lt] at sound room
  obtain ⟨-, reserved, buffer, covered⟩ := sound
  unfold headroom
  constructor
  · intro fits
    have nonneg := Int64.le_iff_toInt_le.mp reserved
    have bounded := e.availableMinor.toInt_lt
    rw [Int64.toInt_zero] at nonneg
    omega
  · intro small
    rw [Int64.le_iff_toInt_le, toInt_sub_of_le reserved covered,
      toInt_add_of_lt buffer small] at room
    omega

/-! ## One step -/

/-- An admission the step makes is the first on its row and its sum with the buffer
does not overflow, or the row has enough for all the intents executed on it so far. -/
def Prudent (config later : AdmissionConfig) : Prop :=
  ∀ e ∈ shownRows later.threads, ∀ intent ∈ admitted e later.threads \ admitted e config.threads,
    (admitted e config.threads = ∅ ∧
      intent.amountMinor.toInt + e.requiredBufferMinor.toInt < 2 ^ 63) ∨
    executedAmount e config.threads ≤ headroom e

instance (config later : AdmissionConfig) : Decidable (Prudent config later) :=
  inferInstanceAs (Decidable (∀ _ ∈ _, ∀ _ ∈ _, _))

def prudently [CaseTables] (config : AdmissionConfig)
    (action : Action Execution AdmissionChoice VerifierEvent) : Bool :=
  (executions.next config action).all fun later => Prudent config later

section
variable [CaseTables] {config later : AdmissionConfig} {e : LiquidityEvidence}
  {action : Action Execution AdmissionChoice VerifierEvent}

section
variable (taken : executions.next config action = some later)
include taken

theorem admitted_mono :
    admitted e config.threads ⊆ admitted e later.threads := by
  intro intent listed
  obtain ⟨run, present, against, rfl⟩ := mem_admitted.mp listed
  obtain ⟨i, found⟩ := List.getElem?_of_mem present
  obtain ⟨after, trace, found', label, past, -⟩ := Machine.next_thread taken found
  refine mem_admitted.mpr ⟨after, List.mem_of_getElem? found', ?_, by rw [label]⟩
  simp only [admittedAgainst, wasShown, past, List.any_append, Bool.and_eq_true,
    Bool.or_eq_true] at against ⊢
  exact ⟨.inl against.1, .inl against.2⟩

/-- A step admits at most one intent. -/
theorem admitted_subset_insert (e : LiquidityEvidence) :
    ∃ intent, admitted e later.threads ⊆ insert intent (admitted e config.threads) := by
  rcases Machine.next_cases taken with ⟨label, program, -, rfl⟩ |
    ⟨i, label, past, request, next, choice, answer, shared, active, -, rfl⟩ | ⟨event, shared, -, rfl⟩
  · refine ⟨label.intent, fun intent listed => ?_⟩
    obtain ⟨run, present, against, rfl⟩ := mem_admitted.mp listed
    rcases mem_concat.mp present with old | rfl
    · exact Finset.mem_insert_of_mem (mem_admitted.mpr ⟨run, old, against, rfl⟩)
    · exact Finset.mem_insert_self _ _
  · refine ⟨label.intent, fun intent listed => ?_⟩
    obtain ⟨run, present, against, rfl⟩ := mem_admitted.mp listed
    rcases List.mem_or_eq_of_mem_set present with old | rfl
    · exact Finset.mem_insert_of_mem (mem_admitted.mpr ⟨run, old, against, rfl⟩)
    · exact Finset.mem_insert_self _ _
  · exact ⟨depositIntent, Finset.subset_insert _ _⟩

section
variable (new : intent ∈ admitted e later.threads) (fresh : intent ∉ admitted e config.threads)
include new fresh

theorem admitted_eq_insert :
    admitted e later.threads = insert intent (admitted e config.threads) := by
  obtain ⟨only, within⟩ := admitted_subset_insert taken e
  obtain rfl : intent = only := (Finset.mem_insert.mp (within new)).resolve_right fresh
  exact within.antisymm (Finset.insert_subset new (admitted_mono taken))

theorem admittedAmount_of_new :
    admittedAmount e later.threads =
      admittedAmount e config.threads + intent.amountMinor.toInt := by
  unfold admittedAmount
  rw [admitted_eq_insert taken new fresh, Finset.sum_insert fresh, add_comm]

end

end

section
variable (reached : executions.Reaches emptyTreasury config)
include reached

theorem passed_of_admitted (listed : intent ∈ admitted e config.threads) : Passed intent e := by
  obtain ⟨run, present, against, rfl⟩ := mem_admitted.mp listed
  exact ((orderly_of_reaches reached present).passed against).1

theorem positive_of_executedOn (listed : intent ∈ executedOn e config.threads) :
    0 ≤ intent.amountMinor.toInt := by
  obtain ⟨run, present, shown, rfl⟩ := mem_executedOn.mp listed
  obtain ⟨event, seen, shown⟩ := List.any_eq_true.mp shown
  have positive := (orderly_of_reaches reached present).positive seen (of_decide_eq_true shown)
  exact (Int64.lt_iff_toInt_lt.mp positive).le

variable (taken : executions.next config action = some later)
include taken

/-- What is admitted after a step was executed on the row before it: the row is shown to a
run before its saga advances. -/
theorem admitted_subset_executedOn : admitted e later.threads ⊆ executedOn e config.threads := by
  intro intent listed
  obtain ⟨run, present, against, rfl⟩ := mem_admitted.mp listed
  obtain ⟨-, before, event, after, split_, shown⟩ :=
    (orderly_of_reaches (.tail action reached taken) present).passed against
  have earlier : ∀ old ∈ config.threads, old.label = run.label → before <+: old.past →
      run.label.intent ∈ executedOn e config.threads := by
    intro old listed same early
    refine mem_executedOn.mpr ⟨old, listed, ?_, by rw [same]⟩
    obtain ⟨seen, present, shows⟩ := List.any_eq_true.mp shown
    exact List.any_eq_true.mpr ⟨seen, early.subset present, shows⟩
  have whole : before <+: run.past := split_ ▸ List.prefix_append _ _
  rcases Machine.next_cases taken with ⟨label, program, -, rfl⟩ |
    ⟨i, label, past, request, next, choice, answer, shared, active, -, rfl⟩ | ⟨_, shared, -, rfl⟩
  · rcases mem_concat.mp present with old | rfl
    · exact earlier run old rfl whole
    · simp at split_
  · rcases List.mem_or_eq_of_mem_set present with old | rfl
    · exact earlier run old rfl whole
    refine earlier _ (List.mem_of_getElem? active) rfl ?_
    -- an event follows `before`, so it was over when the step added its own
    rcases List.prefix_concat_iff.mp whole with all | early
    · have longer := congrArg List.length split_
      simp [all] at longer
    · exact early
  · exact earlier run present rfl whole

/-- A prudent step keeps what is admitted within the headroom. -/
theorem WithinHeadroom.step (within : WithinHeadroom config.threads)
    (prudent : Prudent config later) : WithinHeadroom later.threads := by
  intro e some_
  by_cases new : ∃ intent ∈ admitted e later.threads, intent ∉ admitted e config.threads
  · obtain ⟨intent, new, fresh⟩ := new
    rcases prudent e (mem_shownRows_of_admitted new) intent (Finset.mem_sdiff.mpr ⟨new, fresh⟩) with
      ⟨first, small⟩ | enough
    · rw [admittedAmount_of_new taken new fresh, admittedAmount, first, Finset.sum_empty, zero_add]
      exact (passed_of_admitted (.tail action reached taken) new).le_headroom_iff.mpr small
    · refine (Finset.sum_le_sum_of_subset_of_nonneg
        (admitted_subset_executedOn reached taken) fun other listed _ => ?_).trans enough
      exact positive_of_executedOn reached listed
  have same : admitted e later.threads = admitted e config.threads := by
    refine Finset.Subset.antisymm (fun intent listed => ?_) (admitted_mono taken)
    by_contra fresh
    exact new ⟨intent, listed, fresh⟩
  rw [admittedAmount, same]
  exact within e (same ▸ some_)

end

/-- What is admitted against a row is within its headroom in every state that prudent steps
lead to. From any state reached, the first admission on a row is within the headroom exactly
if its sum with the buffer does not overflow. -/
theorem admissions_stay_within_headroom (config : AdmissionConfig) :
    (executions.ReachesBy prudently emptyTreasury config → WithinHeadroom config.threads) ∧
    (∀ action later e intent, executions.Reaches emptyTreasury config →
      executions.next config action = some later → admitted e config.threads = ∅ →
      intent ∈ admitted e later.threads →
      (admittedAmount e later.threads ≤ headroom e ↔
        intent.amountMinor.toInt + e.requiredBufferMinor.toInt < 2 ^ 63)) := by
  constructor
  · intro ran
    induction ran with
    | refl =>
      intro e some_
      exact absurd some_ Finset.not_nonempty_empty
    | tail action before prudent taken ih =>
      rw [prudently, taken] at prudent
      exact ih.step before.reaches taken (of_decide_eq_true prudent)
  · intro action later e intent reached taken first new
    have fresh : intent ∉ admitted e config.threads := first ▸ Finset.notMem_empty intent
    rw [admittedAmount_of_new taken new fresh, admittedAmount, first, Finset.sum_empty, zero_add]
    exact (passed_of_admitted (.tail action reached taken) new).le_headroom_iff

end

/-! ## Two deposits against one row -/

def secondDeposit : Intent := { depositIntent with id := "intent-2", idempotencyKey := "key-2" }

def confirmed (thread calls : Nat) : List (Action Execution AdmissionChoice VerifierEvent) :=
  List.replicate calls (.exec thread (.answers confirmingPorts))

def verifying (thread : Nat) : List (Action Execution AdmissionChoice VerifierEvent) :=
  [.reads 10, .draws "token", .proceeds, .begins (some "tenant-a") 10, .picks "evidence-1",
    .proceeds, .proceeds, .proceeds, .proceeds].map fun choice => .exec thread (.verifier choice)

/-- One deposit of 2500 is settled, then another is admitted against the same row. -/
def depositSchedule (second : Intent) : List (Action Execution AdmissionChoice VerifierEvent) :=
  [.env (.inserted kenyaEvidence), .spawn { intent := depositIntent }] ++ confirmed 0 6 ++
    verifying 0 ++ confirmed 0 15 ++ [.spawn { intent := second }] ++ confirmed 1 6 ++
    verifying 1 ++ confirmed 1 1

/-- The row leaves 3500, and 5000 are admitted against it. -/
theorem two_deposits_exceed_headroom :
    ∃ config, (@executions asciiTables).Reaches emptyTreasury config ∧
      admitted kenyaEvidence.evidence config.threads = {depositIntent, secondDeposit} ∧
      admittedAmount kenyaEvidence.evidence config.threads = 5000 ∧
      headroom kenyaEvidence.evidence = 3500 := by
  refine Machine.exists_of_replay (depositSchedule secondDeposit) ?_
  decide +kernel

/-- A second deposit of 1000 is prudent. -/
def smallDeposit : Intent := { secondDeposit with amountMinor := 1000 }

/-- A second deposit for which the row has enough. -/
theorem small_deposit_stays_within_headroom :
    ∃ config, (@executions asciiTables).ReachesBy (@prudently asciiTables) emptyTreasury config ∧
      admitted kenyaEvidence.evidence config.threads = {depositIntent, smallDeposit} ∧
      WithinHeadroom config.threads := by
  have played : ∃ config,
      (@executions asciiTables).ReachesBy (@prudently asciiTables) emptyTreasury config ∧
        admitted kenyaEvidence.evidence config.threads = {depositIntent, smallDeposit} := by
    refine Machine.exists_of_replayBy (depositSchedule smallDeposit) ?_
    decide +kernel
  obtain ⟨config, ran, both⟩ := played
  exact ⟨config, ran, both, (@admissions_stay_within_headroom asciiTables config).1 ran⟩

end UmojaFlowOS.Settlement.Liquidity
