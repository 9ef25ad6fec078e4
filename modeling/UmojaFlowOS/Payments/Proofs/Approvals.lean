import UmojaFlowOS.Payments.Proofs.PaymentTransitions

/-!
# Approvals

An order is approved on the strength of the decision that is attached to it, whatever that
decision says and whichever order it was made for; and an approved leg keeps its status when
its order moves on.
-/

namespace UmojaFlowOS.Payments

open Interaction Relational

/-! ## Decisions of the order itself -/

/-- A decision is attached to the order it was made for, and does not block it. -/
def attachesOwn (config : PaymentConfig) : Action PaymentJob PaymentChoice PaymentEvent → Bool
  | .env (.attach order decision) => config.shared.tables.decisions.any fun row =>
      row.id = decision && row.paymentOrderID = order && row.decision ≠ .block
  | _ => true

/-- The decision that an order references was made for it, and does not block it. -/
def Proper (t : PaymentTables) : Prop :=
  ∀ order ∈ t.orders, ∀ id, order.policyDecisionID = some id →
    ∃ decision ∈ t.decisions, decision.id = id ∧ decision.paymentOrderID = order.id ∧
      decision.decision ≠ .block

section
variable {config : PaymentConfig}

/-- The decisions stay proper if those attached are. -/
theorem Proper.step
    (proper : Proper config.shared.tables) (allowed : attachesOwn config action = true)
    (step : Step config action tables) : Proper tables := by
  cases step with
  | quiet | reference => exact proper
  | decided decision =>
    intro order present id decided
    obtain ⟨row, there, facts⟩ := proper order present id decided
    exact ⟨row, by simp [there], facts⟩
  | attached order decision recorded =>
    obtain ⟨row, there, facts⟩ := List.any_eq_true.mp allowed
    simp only [Bool.and_eq_true, decide_eq_true_eq] at facts
    intro changed present id decided
    rcases mem_updateWhere.mp present with ⟨old, -, matched, rfl⟩ | ⟨before, -⟩
    · cases decided
      have own : old.id = order := by simpa using matched
      exact ⟨row, there, facts.1.1, facts.1.2.trans own.symm, facts.2⟩
    · exact proper changed before id decided
  | committed i choice label past next session active open_ agrees complete covers =>
    intro order present id decided
    rw [decisions_applyAll]
    rcases inherited_of_applyAll order present with ⟨old, there, own, same⟩ | ⟨new, inserted, -, same⟩
    · rw [← own]
      exact proper old there id (same.trans decided)
    · rw [undecided_of_complete complete inserted, decided] at same
      cases same

theorem decisions_unique_step (unique : (config.shared.tables.decisions.map (·.id)).Nodup)
    (step : Step config action tables) : (tables.decisions.map (·.id)).Nodup := by
  cases step with
  | decided decision fresh => exact nodup_map_concat unique fresh
  | committed =>
    rw [decisions_applyAll]
    exact unique
  | _ => exact unique

theorem decisions_unique (reached : controlPlane.Reaches ⟨{}, []⟩ config) :
    (config.shared.tables.decisions.map (·.id)).Nodup := by
  induction reached with
  | refl => exact List.nodup_nil
  | tail action before taken ih => exact decisions_unique_step ih (step_of_next before taken)

/-- In every run in which decisions are attached to their own orders and do not block, an
approved order references exactly one decision, which was recorded for that order and is not
a block. -/
theorem approved_by_own_decision (ran : controlPlane.ReachesBy attachesOwn ⟨{}, []⟩ config) :
    ∀ order ∈ config.shared.tables.orders, order.status = .approved →
      ∃! decision, decision ∈ config.shared.tables.decisions ∧
        order.policyDecisionID = some decision.id ∧ decision.paymentOrderID = order.id ∧
        decision.decision ≠ .block := by
  have proper : Proper config.shared.tables := by
    induction ran with
    | refl => exact fun _ present => absurd present List.not_mem_nil
    | tail action before allowed taken ih =>
      exact ih.step allowed (step_of_next before.reaches taken)
  intro order present approved
  have decided := (governed_of_reaches ran.reaches).approved order present approved
  obtain ⟨id, decided⟩ := Option.ne_none_iff_exists'.mp decided
  obtain ⟨decision, there, own, facts⟩ := proper order present id decided
  refine ⟨decision, ⟨there, by rw [decided, own], facts⟩, ?_⟩
  rintro other ⟨listed, same, -⟩
  have equal : other.id = decision.id := by
    rw [own]
    exact (Option.some.inj (decided.symm.trans same)).symm
  exact List.inj_on_of_nodup_map (decisions_unique ran.reaches) listed there equal

end

/-- The sample order is approved with a decision that allows it. -/
theorem sample_approved_by_own_decision :
    ∃ config, controlPlane.ReachesBy attachesOwn ⟨{}, []⟩ config ∧
      ∃ order ∈ config.shared.tables.orders, order.status = .approved ∧
        ∃! decision, decision ∈ config.shared.tables.decisions ∧
          order.policyDecisionID = some decision.id ∧ decision.paymentOrderID = order.id ∧
          decision.decision ≠ .block := by
  have runs : ∃ config, controlPlane.ReachesBy attachesOwn ⟨{}, []⟩ config ∧
      ∃ order ∈ config.shared.tables.orders, order.status = .approved :=
    Machine.exists_of_replayBy (sampleApproval .allow) (by decide)
  obtain ⟨config, ran, order, present, approved⟩ := runs
  exact ⟨config, ran, order, present, approved, approved_by_own_decision ran order present approved⟩

/-- An order is approved although the decision that is attached to it blocks it. -/
theorem blocked_order_is_approved :
    ∃ config, controlPlane.Reaches ⟨{}, []⟩ config ∧
      ∃ order ∈ config.shared.tables.orders, order.status = .approved ∧
        ∃ decision ∈ config.shared.tables.decisions,
          order.policyDecisionID = some decision.id ∧ decision.paymentOrderID = order.id ∧
          decision.decision = .block := by
  refine Machine.exists_of_replay (sampleApproval .block) ?_
  decide

/-! ## Legs of approved orders -/

def leavesApproved : PaymentWrite → Option Uuid
  | .orderStatus id status => if status = .approved then none else some id
  | _ => none

/-- A commit moves an order on only while none of its legs is approved and no open
transaction has looked up one of its legs with the order as approved. -/
def movesAlone (config : PaymentConfig) : Action PaymentJob PaymentChoice PaymentEvent → Bool
  | .exec _ (.fails _) => true
  | .exec i _ =>
    match config.threads[i]?, config.shared.live i with
    | some ⟨_, _, .call (.run .commit) _⟩, some session =>
      (session.view.writes.filterMap leavesApproved).all fun id =>
        !(config.shared.tables.legs.any fun leg => leg.paymentOrderID = id && leg.status = .approved) &&
        !(config.shared.sessions.elsewhere i fun other =>
          other.snapshot.any fun order => order.id = id && order.status = .approved)
    | _, _ => true
  | _ => true

def ApprovedIn (t : PaymentTables) (id : Uuid) : Prop :=
  ∃ order ∈ t.orders, order.id = id ∧ order.status = .approved

structure Ranked (config : PaymentConfig) : Prop where
  legs : ∀ leg ∈ config.shared.tables.legs, leg.status = .approved →
    ApprovedIn config.shared.tables leg.paymentOrderID
  snapshots : ∀ i session, config.shared.live i = some session → ∀ order ∈ session.snapshot,
    order.status = .approved → ApprovedIn config.shared.tables order.id

section
variable {t : PaymentTables} {id : Uuid}

theorem ApprovedIn.applyAll (approved : ApprovedIn t id)
    (stays : ∀ write ∈ writes, leavesApproved write ≠ some id) :
    ApprovedIn (t.applyAll writes) id := by
  refine applyAll_keeps (fun later => ApprovedIn later id) (fun later write member so_far => ?_) approved
  obtain ⟨order, present, own, held⟩ := so_far
  cases write with
  | insertOrder new => exact ⟨order, List.mem_append_left _ present, own, held⟩
  | orderStatus moved status =>
    by_cases same : order.id = moved
    · have kept : status = .approved := by
        by_contra other
        exact stays _ member (by simp [leavesApproved, other, ← same, own])
      exact ⟨_, mem_updateWhere.mpr (.inl ⟨order, present, by simpa using same, rfl⟩), own, kept⟩
    · exact ⟨order, mem_updateWhere.mpr (.inr ⟨present, by simpa using same⟩), own, held⟩
  | _ => exact ⟨order, present, own, held⟩

theorem ApprovedIn.attach (approved : ApprovedIn t id) (order decision : Uuid) :
    ApprovedIn (t.attach order decision) id := by
  obtain ⟨row, present, own, held⟩ := approved
  by_cases same : row.id = order
  · exact ⟨_, mem_updateWhere.mpr (.inl ⟨row, present, by simpa using same, rfl⟩), own, held⟩
  · exact ⟨row, mem_updateWhere.mpr (.inr ⟨present, by simpa using same⟩), own, held⟩

/-- A leg that is approved after a commit was approved before, or was read with its order as
approved. -/
theorem leg_of_complete (unique : Unique t) (complete : Complete job seen)
    (covers : Covers t seen.view snapshot) (present : leg ∈ (t.applyAll seen.view.writes).legs)
    (approved : leg.status = .approved) :
    leg ∈ t.legs ∨ (∀ id, ∀ write ∈ seen.view.writes, leavesApproved write ≠ some id) ∧
      ∃ order ∈ snapshot, order.id = leg.paymentOrderID ∧ order.status = .approved := by
  cases complete with
  | nothing written | created new id event written | cancelled row event read free written
  | drafted row new id time amount read live unbound clock early positive places derived usable written
  | orderMoved row status reason read allowed decided written =>
    rw [written] at present
    exact .inl present
  | expired ids events written =>
    rw [written] at present
    change leg ∈ (PaymentTables.applyAll (PaymentWrite.apply t (.lockStatus ids .expired)) _).legs at present
    rw [applyAll_events] at present
    exact .inl present
  | legDrafted order new id event read own written =>
    rw [written] at present
    rcases mem_concat.mp present with old | rfl
    · exact .inl old
    · cases approved
  | legMoved row orderStatus status reason read allowed decided written =>
    have current := covers.reads _ read
    rw [written] at present
    rcases (mem_legs_status unique current.1 status leg).mp present with rfl | ⟨old, -⟩
    · obtain ⟨-, parent, listed, own, same⟩ := current
      refine .inr ⟨?_, parent, listed, own, same.trans (decided approved)⟩
      rw [written]
      simp [leavesApproved]
    · exact .inl old

end

/-! ### Along the guarded runs -/

section
variable {config : PaymentConfig} {tables : PaymentTables}

variable {session : PaymentSession}

/-- An order that a commit moves on has no approved leg, and nobody else looks at it as
approved. -/
theorem alone_of_commit
    (active : config.threads[i]? = some ⟨label, past, .call (.run .commit) next⟩)
    (open_ : config.shared.live i = some session) (applied : ∀ text, choice ≠ .fails text)
    (allowed : movesAlone config (.exec i choice) = true) {id : Uuid}
    (member : write ∈ session.view.writes) (moved : leavesApproved write = some id) :
    (∀ leg ∈ config.shared.tables.legs, leg.paymentOrderID = id → leg.status ≠ .approved) ∧
      ∀ j other, config.shared.live j = some other → j ≠ i → ∀ order ∈ other.snapshot,
        order.id = id → order.status ≠ .approved := by
  rw [movesAlone.eq_2 _ _ _ applied] at allowed
  simp only [active, open_] at allowed
  have alone := List.all_eq_true.mp allowed id (List.mem_filterMap.mpr ⟨write, member, moved⟩)
  obtain ⟨unapproved, unseen⟩ := (Bool.and_eq_true _ _).mp alone
  refine ⟨fun leg present own approved => ?_, fun j other there different order listed own approved => ?_⟩
  · have none_ := List.any_eq_false.mp (Bool.not_eq_true' _ |>.mp unapproved) leg present
    simp [own, approved] at none_
  have none_ := Sessions.elsewhere_eq_false.mp (Bool.not_eq_true' _ |>.mp unseen) j other
    (Sessions.get_of_live there) different
  have unlisted := List.any_eq_false.mp none_ order listed
  simp [own, approved] at unlisted

section
variable (ranked : Ranked config)
include ranked

theorem Ranked.legs_step (unique : Unique config.shared.tables)
    (allowed : movesAlone config action = true) (step : Step config action tables) :
    ∀ leg ∈ tables.legs, leg.status = .approved → ApprovedIn tables leg.paymentOrderID := by
  intro leg present approved
  cases step with
  | attached order decision => exact (ranked.legs leg present approved).attach order decision
  | committed i choice label past next session active open_ agrees complete covers applied =>
    rcases leg_of_complete unique complete covers present approved with
      old | ⟨stays, order, listed, own, held⟩
    · refine (ranked.legs leg old approved).applyAll fun write member moved => ?_
      have alone := alone_of_commit active open_ applied allowed (agrees ▸ member) moved
      exact alone.1 leg old rfl approved
    · rw [← own]
      exact (ranked.snapshots i session open_ order listed held).applyAll (stays order.id)
  | _ => exact ranked.legs leg present approved

theorem Ranked.snapshots_step (allowed : movesAlone config action = true)
    (step : Step config action tables)
    (open_ : config.shared.live j = some session) (idle : ∀ choice, action ≠ .exec j choice) :
    ∀ order ∈ session.snapshot, order.status = .approved → ApprovedIn tables order.id := by
  intro order listed approved
  have before := ranked.snapshots j session open_ order listed approved
  cases step with
  | attached moved decision => exact before.attach moved decision
  | committed i choice label past next writing active present agrees complete covers applied =>
    refine before.applyAll fun write member moved => ?_
    have alone := alone_of_commit active present applied allowed (agrees ▸ member) moved
    exact alone.2 j session open_ (fun same => idle choice (same ▸ rfl)) order listed rfl approved
  | _ => exact before

theorem Ranked.snapshots_exec (invariant : PaymentInvariant config)
    (active : config.threads[i]? = some ⟨label, past, .call call next⟩)
    (permitted : (paymentSeenIn past).permits label call)
    (effect : PaymentEffect config.shared i call answer after)
    (open_ : after.live i = some session) :
    ∀ order ∈ session.snapshot, order.status = .approved → ApprovedIn after.tables order.id := by
  have kept : after.tables = config.shared.tables := by
    rcases tables_of_effect effect with same | ⟨-, -, -, -, closed⟩
    · exact same
    · rw [closed] at open_
      cases open_
  rw [kept]
  cases continued_of_effect effect open_ with
  | kept before => exact ranked.snapshots i session before
  | begun => simp
  | @answered statement rows before held answered =>
    have earlier := ranked.snapshots i before held
    have unread := invariant.agrees i _ before active held
    cases statement
    case startSelectLeg id =>
      -- a transaction that starts with this statement has not written anything
      have fresh : before.view = {} := unread.trans permitted
      intro order listed approved
      refine ⟨order, ?_, rfl, approved⟩
      have committed := applyAll_of_unwritten (t := config.shared.tables) (congrArg PaymentView.writes fresh)
      rw [← committed]
      exact List.mem_of_mem_filter listed
    all_goals exact earlier

theorem Ranked.next
    (reached : controlPlane.Reaches ⟨{}, []⟩ config) (allowed : movesAlone config action = true)
    (taken : controlPlane.next config action = some later) : Ranked later := by
  have invariant := paymentInvariant_of_reaches reached
  have step := step_of_next reached taken
  refine ⟨ranked.legs_step invariant.unique allowed step, fun j session open_ => ?_⟩
  cases action with
  | spawn label =>
    obtain ⟨program, -, rfl⟩ := Machine.next_spawn taken
    exact ranked.snapshots_step allowed step open_ nofun
  | env event =>
    obtain ⟨after, occurs, rfl⟩ := Machine.next_env taken
    exact ranked.snapshots_step allowed step (live_of_occur occurs open_) nofun
  | exec i choice =>
    obtain ⟨label, past, call, next, answer, after, active, done, rfl⟩ := Machine.next_exec taken
    have effect := paymentEffect_of_exec done
    by_cases same : j = i
    · subst same
      exact ranked.snapshots_exec invariant active (permits_of_reaches reached active) effect open_
    rw [live_of_effect effect same] at open_
    refine ranked.snapshots_step allowed step open_ fun other equal => same ?_
    cases equal
    rfl

end

end

/-- In every run in which an order is moved on only while it has no approved leg and nobody is
about to approve one, every approved leg belongs to an approved order. -/
theorem approved_legs_have_approved_orders {config : PaymentConfig}
    (ran : controlPlane.ReachesBy movesAlone ⟨{}, []⟩ config) :
    ∀ leg ∈ config.shared.tables.legs, leg.status = .approved →
      ∃ order ∈ config.shared.tables.orders, order.id = leg.paymentOrderID ∧
        order.status = .approved := by
  have ranked : Ranked config := by
    induction ran with
    | refl =>
      exact ⟨by simp, fun _ _ open_ => absurd open_ nofun⟩
    | tail action before allowed taken ih => exact ih.next before.reaches allowed taken
  exact ranked.legs

def sampleLegMove (i id : Nat) (status : String) :
    List (Action PaymentJob PaymentChoice PaymentEvent) :=
  .spawn ⟨treasurer, .transitionPaymentLeg id status "reviewed by treasury"⟩ ::
    execs i [.proceeds, .proceeds, .proceeds, .proceeds, .proceeds, .proceeds]

/-- The drafted order is given a leg, and both go through their review and are approved. -/
def sampleLegApproval : List (Action PaymentJob PaymentChoice PaymentEvent) :=
  sampleDraft ++ [.spawn ⟨treasurer, .createPaymentLeg ⟨20, 1, "payout", 9⟩⟩] ++
    execs 2 [.proceeds, .proceeds, .proceeds, .assigns 40, .proceeds, .proceeds] ++
    sampleMove 3 20 "pending_policy_decision" ++
    [.env (.recordDecision ⟨30, 20, .allow⟩), .env (.attach 20 30)] ++ sampleMove 4 20 "approved" ++
    sampleLegMove 5 40 "pending_policy_decision" ++ sampleLegMove 6 40 "approved"

/-- A leg that is approved under its approved order. -/
theorem sample_leg_has_approved_order :
    ∃ config, controlPlane.ReachesBy movesAlone ⟨{}, []⟩ config ∧
      ∃ leg ∈ config.shared.tables.legs, leg.status = .approved ∧
        ∃ order ∈ config.shared.tables.orders, order.id = leg.paymentOrderID ∧
          order.status = .approved := by
  have runs : ∃ config, controlPlane.ReachesBy movesAlone ⟨{}, []⟩ config ∧
      ∃ leg ∈ config.shared.tables.legs, leg.status = .approved :=
    Machine.exists_of_replayBy sampleLegApproval (by decide)
  obtain ⟨config, ran, leg, present, approved⟩ := runs
  exact ⟨config, ran, leg, present, approved,
    approved_legs_have_approved_orders ran leg present approved⟩

/-- The approved order is cancelled, and its leg stays approved. -/
theorem approved_leg_of_cancelled_order :
    ∃ config, controlPlane.Reaches ⟨{}, []⟩ config ∧
      ∃ leg ∈ config.shared.tables.legs, leg.status = .approved ∧
        ∀ order ∈ config.shared.tables.orders, order.id = leg.paymentOrderID →
          order.status = .cancelled := by
  refine Machine.exists_of_replay (sampleLegApproval ++ sampleMove 7 20 "cancelled") ?_
  decide

end UmojaFlowOS.Payments
