import UmojaFlowOS.Payments.Proofs.RateLockBindings

/-!
# Transitions of orders and legs

Orders and legs move along the table of internal transitions only, one at a time and each
with its event.
-/

namespace UmojaFlowOS.Payments

open Interaction Relational

/-! ## One step -/

/-- How the statuses of orders change: along the table, an approval with a policy decision, with
the event of the move and no other; a new order is a draft. -/
structure OrdersStep (t later : PaymentTables) : Prop where
  moved : ∀ before ∈ t.orders, ∀ after ∈ later.orders, after.id = before.id →
    after.status ≠ before.status → after.status ∈ internalOrderTransitions before.status ∧
      (after.status = .approved → after.policyDecisionID ≠ none) ∧
      ∃ actor reason, later.events = t.events ++
        [orderEvent actor before.id before.status after.status.text reason]
  drafted : ∀ after ∈ later.orders, (∀ before ∈ t.orders, before.id ≠ after.id) →
    after.status = .draft

/-- The same of legs. -/
structure LegsStep (t later : PaymentTables) : Prop where
  moved : ∀ before ∈ t.legs, ∀ after ∈ later.legs, after.id = before.id →
    after.status ≠ before.status → after.status ∈ internalLegTransitions before.status ∧
      ∃ actor orderStatus reason, later.events = t.events ++
        [legEvent actor before.id before orderStatus after.status.text reason]
  drafted : ∀ after ∈ later.legs, (∀ before ∈ t.legs, before.id ≠ after.id) → after.status = .draft

section
variable {t later : PaymentTables}

section
variable (unique : Unique t)
include unique

theorem ordersStep_of_rows (same : later.orders.map (fun order => (order.id, order.status)) =
      t.orders.map fun order => (order.id, order.status)) : OrdersStep t later := by
  refine And.elim OrdersStep.mk (step_of_origins unique.orders fun after present => ?_)
  obtain ⟨before, listed, equal⟩ := exists_of_map_eq same present
  obtain ⟨own, kept⟩ := Prod.mk.inj equal
  exact .inl ⟨before, listed, own, .inl kept.symm⟩

theorem legsStep_of_rows (same : later.legs = t.legs) : LegsStep t later := by
  refine And.elim LegsStep.mk (step_of_origins unique.legs fun after present => ?_)
  exact .inl ⟨after, same ▸ present, rfl, .inl rfl⟩

theorem mem_orders_status (present : row ∈ t.orders)
    (status : PaymentStatus) (order : PaymentOrder) :
    order ∈ (PaymentWrite.apply t (.orderStatus row.id status)).orders ↔
      order = { row with status := status } ∨ order ∈ t.orders ∧ order.id ≠ row.id :=
  mem_updateWhere_of_unique unique.orders present (by simp) fun other same => by simpa using same

theorem mem_legs_status (present : row ∈ t.legs) (status : PaymentStatus) (leg : PaymentLeg) :
    leg ∈ (PaymentWrite.apply t (.legStatus row.id status)).legs ↔
      leg = { row with status := status } ∨ leg ∈ t.legs ∧ leg.id ≠ row.id :=
  mem_updateWhere_of_unique unique.legs present (by simp) fun other same => by simpa using same

theorem ordersStep_moved (present : row ∈ t.orders)
    (allowed : status ∈ internalOrderTransitions row.status)
    (decided : status = .approved → row.policyDecisionID ≠ none) :
    OrdersStep t (t.applyAll [.orderStatus row.id status,
      .event (orderEvent actor row.id row.status status.text reason)]) := by
  refine And.elim OrdersStep.mk (step_of_origins unique.orders fun after there => ?_)
  rcases (mem_orders_status unique present status after).mp there with rfl | ⟨old, -⟩
  · exact .inl ⟨row, present, rfl, .inr ⟨allowed, decided, actor, reason, rfl⟩⟩
  · exact .inl ⟨after, old, rfl, .inl rfl⟩

theorem legsStep_moved (present : row ∈ t.legs)
    (allowed : status ∈ internalLegTransitions row.status) :
    LegsStep t (t.applyAll [.legStatus row.id status,
      .event (legEvent actor row.id row orderStatus status.text reason)]) := by
  refine And.elim LegsStep.mk (step_of_origins unique.legs fun after there => ?_)
  rcases (mem_legs_status unique present status after).mp there with rfl | ⟨old, -⟩
  · exact .inl ⟨row, present, rfl, .inr ⟨allowed, actor, orderStatus, reason, rfl⟩⟩
  · exact .inl ⟨after, old, rfl, .inl rfl⟩

theorem ordersStep_drafted (draft : order.status = .draft)
    (fresh : ∀ row ∈ t.orders, row.id ≠ order.id) (orders : later.orders = t.orders ++ [order]) :
    OrdersStep t later := by
  refine And.elim OrdersStep.mk (step_of_origins unique.orders fun after there => ?_)
  rw [orders] at there
  rcases mem_concat.mp there with old | rfl
  · exact .inl ⟨after, old, rfl, .inl rfl⟩
  · exact .inr ⟨fresh, draft⟩

theorem legsStep_drafted (draft : leg.status = .draft) (fresh : ∀ row ∈ t.legs, row.id ≠ leg.id)
    (legs : later.legs = t.legs ++ [leg]) : LegsStep t later := by
  refine And.elim LegsStep.mk (step_of_origins unique.legs fun after there => ?_)
  rw [legs] at there
  rcases mem_concat.mp there with old | rfl
  · exact .inl ⟨after, old, rfl, .inl rfl⟩
  · exact .inr ⟨fresh, draft⟩

theorem statuses_of_complete (complete : Complete job seen) (covers : Covers t seen.view snapshot) :
    OrdersStep t (t.applyAll seen.view.writes) ∧ LegsStep t (t.applyAll seen.view.writes) := by
  cases complete with
  | nothing written | created new id event written | cancelled row event read free written =>
    rw [written]
    exact ⟨ordersStep_of_rows unique rfl, legsStep_of_rows unique rfl⟩
  | expired ids events written =>
    rw [written]
    show OrdersStep t (PaymentTables.applyAll (PaymentWrite.apply t (.lockStatus ids .expired)) _) ∧
      LegsStep t (PaymentTables.applyAll (PaymentWrite.apply t (.lockStatus ids .expired)) _)
    rw [applyAll_events]
    exact ⟨ordersStep_of_rows unique rfl, legsStep_of_rows unique rfl⟩
  | drafted row new id time amount read live unbound clock early positive places derived usable written =>
    have fresh : (PaymentWrite.insertOrder (new.row id)).Fresh t :=
      covers.writes _ (by rw [written]; exact List.mem_cons_self ..)
    rw [written]
    exact ⟨ordersStep_drafted unique rfl (fun other listed => (fresh other listed).1) rfl,
      legsStep_of_rows unique rfl⟩
  | legDrafted order new id event read own written =>
    have fresh : (PaymentWrite.insertLeg (new.row id)).Fresh t :=
      covers.writes _ (by rw [written]; exact List.mem_cons_self ..)
    rw [written]
    exact ⟨ordersStep_of_rows unique rfl, legsStep_drafted unique rfl fresh rfl⟩
  | orderMoved row status reason read allowed decided written =>
    rw [written]
    exact ⟨ordersStep_moved unique (covers.reads _ read) allowed decided, legsStep_of_rows unique rfl⟩
  | legMoved row orderStatus status reason read allowed decided written =>
    rw [written]
    exact ⟨ordersStep_of_rows unique rfl, legsStep_moved unique (covers.reads _ read).1 allowed⟩

end

end

theorem statuses_of_step (unique : Unique config.shared.tables) (step : Step config action tables) :
    OrdersStep config.shared.tables tables ∧ LegsStep config.shared.tables tables := by
  cases step with
  | quiet | reference | decided =>
    exact ⟨ordersStep_of_rows unique rfl, legsStep_of_rows unique rfl⟩
  | attached =>
    exact ⟨ordersStep_of_rows unique (map_updateWhere fun _ => rfl), legsStep_of_rows unique rfl⟩
  | committed i choice label past next session active open_ agrees complete covers =>
    exact statuses_of_complete unique complete covers

/-! ## Policy decisions -/

section
variable {t : PaymentTables} {writes : List PaymentWrite}

theorem decisions_applyAll : (t.applyAll writes).decisions = t.decisions := by
  refine applyAll_keeps (fun later => later.decisions = t.decisions) (fun later write _ same => ?_) rfl
  cases write <;> exact same

/-- The decision of a row is that of an order of `t`, or the row is inserted with it. -/
def Inherited (t : PaymentTables) (writes : List PaymentWrite) (row : PaymentOrder) : Prop :=
  (∃ old ∈ t.orders, old.id = row.id ∧ old.policyDecisionID = row.policyDecisionID) ∨
    ∃ new, PaymentWrite.insertOrder new ∈ writes ∧ new.id = row.id ∧
      new.policyDecisionID = row.policyDecisionID

/-- No write of a transaction changes the decision of an order. -/
theorem inherited_of_applyAll : ∀ row ∈ (t.applyAll writes).orders, Inherited t writes row := by
  refine applyAll_keeps (fun later => ∀ row ∈ later.orders, Inherited t writes row)
    (fun later write member so_far => ?_) fun row present => .inl ⟨row, present, rfl, rfl⟩
  intro row present
  cases write with
  | insertOrder new =>
    rcases List.mem_append.mp present with old | fresh
    · exact so_far row old
    · rw [List.mem_singleton.mp fresh]
      exact .inr ⟨new, member, rfl, rfl⟩
  | orderStatus id status =>
    rcases mem_updateWhere.mp present with ⟨old, there, -, rfl⟩ | ⟨there, -⟩
    · exact so_far old there
    · exact so_far row there
  | _ => exact so_far row present

theorem undecided_of_complete (complete : Complete job seen)
    (inserted : .insertOrder order ∈ seen.view.writes) : order.policyDecisionID = none := by
  cases complete
  case drafted written =>
    rw [written] at inserted
    simp only [List.mem_cons, PaymentWrite.insertOrder.injEq, reduceCtorEq, List.not_mem_nil,
      or_false] at inserted
    rw [inserted]
    rfl
  all_goals
    rename_i written
    rw [written] at inserted
    simp at inserted

end

/-- The states are internal, the decisions of orders are recorded, and an approved order has
one. -/
structure Governed (t : PaymentTables) : Prop where
  orders : ∀ order ∈ t.orders, order.status ∉ providerDependentOrderStates
  legs : ∀ leg ∈ t.legs, leg.status ∉ providerDependentOrderStates
  recorded : ∀ order ∈ t.orders, ∀ id, order.policyDecisionID = some id →
    ∃ decision ∈ t.decisions, decision.id = id
  approved : ∀ order ∈ t.orders, order.status = .approved → order.policyDecisionID ≠ none

section
variable {t later : PaymentTables}

section
variable (governed : Governed t)
include governed

theorem internal_of_step (orders : OrdersStep t later) (legs : LegsStep t later) :
    (∀ order ∈ later.orders, order.status ∉ providerDependentOrderStates) ∧
      ∀ leg ∈ later.legs, leg.status ∉ providerDependentOrderStates := by
  refine ⟨fun after present => ?_, fun after present => ?_⟩
  · rcases origin_of_step orders.moved orders.drafted present with
      ⟨before, listed, -, same | moved⟩ | draft
    · exact same ▸ governed.orders before listed
    · exact not_mem_providerDependent moved.1
    · rw [draft]
      decide
  · rcases origin_of_step legs.moved legs.drafted present with
      ⟨before, listed, -, same | moved⟩ | draft
    · exact same ▸ governed.legs before listed
    · exact not_mem_providerDependent moved.1
    · rw [draft]
      decide

theorem approved_of_step (orders : OrdersStep t later)
    (present : after ∈ later.orders) (approved : after.status = .approved)
    (kept : ∀ before ∈ t.orders, before.id = after.id → before.policyDecisionID ≠ none →
      after.policyDecisionID ≠ none) : after.policyDecisionID ≠ none := by
  rcases origin_of_step orders.moved orders.drafted present with
    ⟨before, listed, own, same | moved⟩ | draft
  · exact kept before listed own (governed.approved before listed (same.symm.trans approved))
  · exact moved.2.1 approved
  · rw [draft] at approved
    cases approved

theorem Governed.complete (unique : Unique t) (complete : Complete job seen)
    (covers : Covers t seen.view snapshot) : Governed (t.applyAll seen.view.writes) := by
  obtain ⟨orders, legs⟩ := statuses_of_complete unique complete covers
  obtain ⟨first, second⟩ := internal_of_step governed orders legs
  refine ⟨first, second, ?_, ?_⟩
  · intro order present id decided
    rw [decisions_applyAll]
    rcases inherited_of_applyAll order present with ⟨old, there, -, same⟩ | ⟨new, inserted, -, same⟩
    · exact governed.recorded old there id (same.trans decided)
    · rw [undecided_of_complete complete inserted, decided] at same
      cases same
  intro order present approved
  refine approved_of_step governed orders present approved fun before listed own had => ?_
  rcases inherited_of_applyAll order present with ⟨old, there, id, same⟩ | ⟨new, inserted, id, -⟩
  · rw [← same, List.inj_on_of_nodup_map unique.orders there listed (id.trans own.symm)]
    exact had
  · exact absurd (own.trans id.symm) (covers.writes _ inserted before listed).1

theorem Governed.attach (order decision : Uuid)
    (recorded : ∃ row ∈ t.decisions, row.id = decision) : Governed (t.attach order decision) := by
  refine ⟨?_, governed.legs, ?_, ?_⟩
  · intro row present
    rcases mem_updateWhere.mp present with ⟨old, there, -, rfl⟩ | ⟨there, -⟩
    · exact governed.orders old there
    · exact governed.orders row there
  · intro row present id decided
    rcases mem_updateWhere.mp present with ⟨old, -, -, rfl⟩ | ⟨there, -⟩
    · cases decided
      exact recorded
    · exact governed.recorded row there id decided
  intro row present approved
  rcases mem_updateWhere.mp present with ⟨old, -, -, rfl⟩ | ⟨there, -⟩
  · exact nofun
  · exact governed.approved row there approved

end

theorem Governed.step
    (governed : Governed config.shared.tables) (unique : Unique config.shared.tables)
    (step : Step config action tables) : Governed tables := by
  cases step with
  | quiet => exact governed
  | reference => exact ⟨governed.orders, governed.legs, governed.recorded, governed.approved⟩
  | decided decision =>
    refine ⟨governed.orders, governed.legs, fun order present id decided => ?_, governed.approved⟩
    obtain ⟨row, there, own⟩ := governed.recorded order present id decided
    exact ⟨row, by simp [there], own⟩
  | attached order decision recorded => exact governed.attach order decision recorded
  | committed i choice label past next session active open_ agrees complete covers =>
    exact governed.complete unique complete covers

end

section
variable {config : PaymentConfig}

theorem governed_of_reaches (reached : controlPlane.Reaches ⟨{}, []⟩ config) :
    Governed config.shared.tables := by
  induction reached with
  | refl =>
    exact ⟨by simp,
      by simp,
      by simp,
      by simp⟩
  | tail action before taken ih =>
    exact ih.step (paymentInvariant_of_reaches before).unique (step_of_next before taken)

/-- In every run, no order and no leg is in a state that depends on a provider, an approved
order references a recorded policy decision, and every step moves orders and legs along the
table of transitions only, writing exactly the event of the move. -/
theorem transitions_are_governed (reached : controlPlane.Reaches ⟨{}, []⟩ config) :
    (∀ order ∈ config.shared.tables.orders, order.status ∉ providerDependentOrderStates) ∧
    (∀ leg ∈ config.shared.tables.legs, leg.status ∉ providerDependentOrderStates) ∧
    (∀ order ∈ config.shared.tables.orders, order.status = .approved →
      ∃ decision ∈ config.shared.tables.decisions, order.policyDecisionID = some decision.id) ∧
    ∀ action later, controlPlane.next config action = some later →
      OrdersStep config.shared.tables later.shared.tables ∧
        LegsStep config.shared.tables later.shared.tables := by
  have governed := governed_of_reaches reached
  refine ⟨governed.orders, governed.legs, ?_, ?_⟩
  · intro order present approved
    obtain ⟨id, decided⟩ := Option.ne_none_iff_exists'.mp (governed.approved order present approved)
    obtain ⟨decision, there, own⟩ := governed.recorded order present id decided
    exact ⟨decision, there, by rw [decided, own]⟩
  · intro action later taken
    exact statuses_of_step (paymentInvariant_of_reaches reached).unique (step_of_next reached taken)

end

/-! ## A sample run -/

/-- A transition that nothing stands in the way of: `BEGIN`, the row, its update, the event,
`COMMIT`. -/
def sampleMove (i id : Nat) (status : String) : List (Action PaymentJob PaymentChoice PaymentEvent) :=
  .spawn ⟨treasurer, .transitionPaymentOrder id status "reviewed by treasury"⟩ ::
    execs i [.proceeds, .proceeds, .proceeds, .proceeds, .proceeds]

/-- The drafted order goes through its review and is approved with a decision. -/
def sampleApproval (verdict : Verdict) : List (Action PaymentJob PaymentChoice PaymentEvent) :=
  sampleDraft ++ sampleMove 2 20 "pending_policy_decision" ++
    [.env (.recordDecision ⟨30, 20, verdict⟩), .env (.attach 20 30)] ++ sampleMove 3 20 "approved"

/-- An order that is approved with a recorded decision. -/
theorem sample_approval_is_governed :
    ∃ config, controlPlane.Reaches ⟨{}, []⟩ config ∧ ∃ order ∈ config.shared.tables.orders,
      order.status = .approved ∧
      ∃ decision ∈ config.shared.tables.decisions, order.policyDecisionID = some decision.id := by
  have runs : ∃ config, controlPlane.Reaches ⟨{}, []⟩ config ∧
      ∃ order ∈ config.shared.tables.orders, order.status = .approved :=
    Machine.exists_of_replay (sampleApproval .allow) (by decide)
  obtain ⟨config, reached, order, present, approved⟩ := runs
  exact ⟨config, reached, order, present, approved,
    (transitions_are_governed reached).2.2.1 order present approved⟩

end UmojaFlowOS.Payments
