import UmojaFlowOS.Payments.Proofs.RateLockBindings

/-!
# Cancelled rate locks

The cancellation of the workflow reads the binding of the lock it holds and leaves a bound
lock alone. The one that the router exposes does not look at the binding.
-/

namespace UmojaFlowOS.Payments

open Interaction Relational

def Uncancelled (t : PaymentTables) : Prop :=
  ∀ lock ∈ t.locks, lock.paymentOrderID ≠ none → lock.status ≠ .cancelled

/-- A routed cancellation does not take up a bound lock. -/
def sparesBound (config : PaymentConfig) : Action PaymentJob PaymentChoice PaymentEvent → Bool
  | .exec i _ =>
    match config.threads[i]? with
    | some ⟨⟨_, .cancelRateLockRouted _⟩, _, .call (.run (.selectLock id)) _⟩ =>
      !config.shared.tables.locks.any fun lock => lock.id = id && lock.paymentOrderID.isSome
    | _ => true
  | _ => true

def Spared (config : PaymentConfig) : Prop :=
  ∀ i thread session id, config.threads[i]? = some thread →
    thread.label.task = .cancelRateLockRouted id → config.shared.live i = some session →
    ∀ row, .lock row ∈ session.view.reads → row.paymentOrderID = none

/-! ## Commits -/

section
variable {t : PaymentTables}

/-- A complete change cancels no bound lock if the routed one spares them. -/
theorem uncancelled_complete (uncancelled : Uncancelled t) (unique : Unique t)
    (complete : Complete job seen) (covers : Covers t seen.view snapshot)
    (spared : ∀ id, job.task = .cancelRateLockRouted id →
      ∀ row, .lock row ∈ seen.view.reads → row.paymentOrderID = none) :
    Uncancelled (t.applyAll seen.view.writes) := by
  cases complete with
  | nothing written | legDrafted order new id event read own written
  | orderMoved row status reason read allowed decided written
  | legMoved row orderStatus status reason read allowed decided written =>
    rw [written]
    exact uncancelled
  | created new id event written =>
    rw [written]
    intro lock present bound
    rcases mem_concat.mp present with old | rfl
    · exact uncancelled lock old bound
    · exact nofun
  | expired ids events written =>
    rw [written]
    show Uncancelled (PaymentTables.applyAll (PaymentWrite.apply t (.lockStatus ids .expired)) _)
    rw [applyAll_events]
    intro lock present bound
    rcases mem_updateWhere.mp present with ⟨old, -, -, rfl⟩ | ⟨old, -⟩
    · exact nofun
    · exact uncancelled lock old bound
  | cancelled row event read free written =>
    have there : row ∈ t.locks := covers.reads _ read
    have unbound : row.paymentOrderID = none := by
      rcases free with checked | routed
      · obtain ⟨other, also, same, none_⟩ := covers.reads _ checked
        rw [List.inj_on_of_nodup_map unique.locks there (covers.reads _ also) same.symm, none_]
      · exact spared row.id routed row read
    rw [written]
    intro lock present bound
    rcases mem_updateWhere.mp present with ⟨old, before, matched, rfl⟩ | ⟨old, -⟩
    · have same : old.id = row.id := by simpa using matched
      rw [List.inj_on_of_nodup_map unique.locks before there same] at bound
      exact absurd unbound bound
    · exact uncancelled lock old bound
  | drafted row new id time amount read live unbound clock early positive places derived usable written =>
    rw [written]
    intro lock present bound
    rcases (mem_locks_bind unique (covers.reads _ read) id lock).mp present with rfl | ⟨old, -⟩
    · rw [live]
      exact nofun
    · exact uncancelled lock old bound

end

theorem Uncancelled.step
    (uncancelled : Uncancelled config.shared.tables) (unique : Unique config.shared.tables)
    (spared : Spared config) (step : Step config action tables) : Uncancelled tables := by
  cases step with
  | committed i choice label past next session active open_ agrees complete covers =>
    refine uncancelled_complete uncancelled unique complete covers fun id routed row read => ?_
    exact spared i _ session id active routed open_ row (agrees ▸ read)
  | _ => exact uncancelled

/-! ## Routed cancellations -/

theorem lock_of_answered (answered : Answered session t statement rows)
    (read : .lock row ∈ (session.view.observe statement rows).reads) :
    .lock row ∈ session.view.reads ∨ statement = .selectLock row.id ∧ row ∈ t.locks := by
  have before (entry : PaymentRead) (different : PaymentRead.lock row ≠ entry)
      (listed : .lock row ∈ session.view.reads ++ [entry]) : .lock row ∈ session.view.reads :=
    (List.mem_append.mp listed).resolve_right fun new => different (List.mem_singleton.mp new)
  cases answered
  case lock id =>
    rcases found : t.locks.find? fun row => row.id = id with _ | first
    · rw [found] at read
      exact .inl read
    rw [found] at read
    rcases List.mem_append.mp read with old | new
    · exact .inl old
    cases List.mem_singleton.mp new
    obtain ⟨present, rfl⟩ := find?_id found
    exact .inr ⟨rfl, present⟩
  case binding id => exact .inl (before (.binding id _) nofun read)
  case order id =>
    cases found : t.orders.find? fun row => row.id = id with
    | none =>
      rw [found] at read
      exact .inl read
    | some order =>
      rw [found] at read
      exact .inl (before (.order order) nofun read)
  case leg id =>
    left
    revert read
    cases (t.legs.find? fun row => row.id = id).bind fun leg =>
        (session.snapshot.find? fun order => order.id = leg.paymentOrderID).map fun order =>
          (leg, order.status) with
    | none => exact fun read => read
    | some found => exact before (.leg found.1 found.2) nofun
  case cancelledLock id =>
    left
    revert read
    cases (t.locks.find? fun row => row.id = id).map (·.id) <;> exact fun read => read
  case updatedOrder status id =>
    left
    revert read
    cases (t.orders.find? fun row => row.id = id).map (·.id) with
    | none => exact fun read => read
    | some changed =>
      show .lock row ∈ ((PaymentStatus.ofText status).elim session.view _).reads → _
      cases PaymentStatus.ofText status <;> exact fun read => read
  case updatedLeg status id =>
    left
    revert read
    cases (t.legs.find? fun row => row.id = id).map (·.id) with
    | none => exact fun read => read
    | some changed =>
      show .lock row ∈ ((PaymentStatus.ofText status).elim session.view _).reads → _
      cases PaymentStatus.ofText status <;> exact fun read => read
  case bound order lock count =>
    left
    cases count <;> exact read
  all_goals exact .inl read

section
variable {config : PaymentConfig}

theorem Spared.exec (spared : Spared config) (reached : controlPlane.Reaches ⟨{}, []⟩ config)
    (active : config.threads[i]? = some ⟨label, past, .call call next⟩)
    (allowed : sparesBound config (.exec i choice) = true)
    (effect : PaymentEffect config.shared i call answer after) :
    Spared ⟨after, config.threads.set i ⟨label, past ++ [⟨call, answer⟩], next answer⟩⟩ := by
  intro j thread session id present routed open_ row read
  rcases getElem?_set_cases present with ⟨rfl, rfl⟩ | ⟨other, present⟩
  · have mine (session : PaymentSession) := spared j _ session id active routed
    cases continued_of_effect effect open_ with
    | kept before => exact mine session before row read
    | begun => cases read
    | answered before answered =>
      rename_i rows earlier
      rcases lock_of_answered answered read with old | ⟨rfl, listed⟩
      · exact mine earlier before row old
      · -- the row is taken up here
        have unwritten : earlier.view.writes = [] := by
          rw [(paymentInvariant_of_reaches reached).agrees j _ earlier active before]
          exact permits_of_reaches reached active
        rw [applyAll_of_unwritten unwritten] at listed
        obtain ⟨actor, task⟩ := label
        cases routed
        simp only [sparesBound, active, Bool.not_eq_true', List.any_eq_false] at allowed
        simpa using allowed row listed
  · rw [live_of_effect effect other] at open_
    exact spared j thread session id present routed open_ row read

theorem spared_of_reachesBy (ran : controlPlane.ReachesBy sparesBound ⟨{}, []⟩ config) :
    Spared config := by
  induction ran with
  | refl => exact fun _ _ _ _ present => absurd present nofun
  | tail action before allowed taken ih =>
    have reached := before.reaches
    cases action with
    | spawn label =>
      obtain ⟨program, -, rfl⟩ := Machine.next_spawn taken
      intro j thread session id present routed open_
      rcases getElem?_concat_cases present with ⟨rfl, -⟩ | old
      · exact absurd ((paymentInvariant_of_reaches reached).owned _ session open_) (Nat.lt_irrefl _)
      · exact ih j thread session id old routed open_
    | exec i choice =>
      obtain ⟨label, past, call, next, answer, after, active, done, rfl⟩ := Machine.next_exec taken
      exact ih.exec reached active allowed (paymentEffect_of_exec done)
    | env event =>
      obtain ⟨after, occurs, rfl⟩ := Machine.next_env taken
      intro j thread session id present routed open_
      exact ih j thread session id present routed (live_of_occur occurs open_)

/-- In every run in which no routed cancellation takes up a bound lock, no bound lock is
cancelled. -/
theorem no_bound_lock_is_cancelled (ran : controlPlane.ReachesBy sparesBound ⟨{}, []⟩ config) :
    ∀ lock ∈ config.shared.tables.locks, lock.paymentOrderID ≠ none → lock.status ≠ .cancelled := by
  show Uncancelled config.shared.tables
  induction ran with
  | refl => exact fun _ present => absurd present List.not_mem_nil
  | tail action before allowed taken ih =>
    have invariant := paymentInvariant_of_reaches before.reaches
    have spared := spared_of_reachesBy before
    exact ih.step invariant.unique spared (step_of_next before.reaches taken)

end

/-- The sample run meets the condition, and its lock stays live. -/
theorem sample_lock_is_not_cancelled :
    ∃ config, controlPlane.ReachesBy sparesBound ⟨{}, []⟩ config ∧
      ∃ lock ∈ config.shared.tables.locks, lock.paymentOrderID = some 20 ∧ lock.status ≠ .cancelled := by
  have runs : ∃ config, controlPlane.ReachesBy sparesBound ⟨{}, []⟩ config ∧
      ∃ lock ∈ config.shared.tables.locks, lock.paymentOrderID = some 20 :=
    Machine.exists_of_replayBy sampleDraft (by decide)
  obtain ⟨config, ran, lock, present, bound⟩ := runs
  refine ⟨config, ran, lock, present, bound, ?_⟩
  exact no_bound_lock_is_cancelled ran lock present (by rw [bound]; exact nofun)

def sampleCancellation : List (Action PaymentJob PaymentChoice PaymentEvent) :=
  .spawn ⟨treasurer, .cancelRateLockRouted 7⟩ ::
    execs 2 [.proceeds, .proceeds, .proceeds, .proceeds, .proceeds]

/-- The router cancels the lock of a drafted order. -/
theorem bound_lock_is_cancelled :
    ∃ config, controlPlane.Reaches ⟨{}, []⟩ config ∧
      ∃ lock ∈ config.shared.tables.locks, lock.paymentOrderID = some 20 ∧ lock.status = .cancelled := by
  refine Machine.exists_of_replay (sampleDraft ++ sampleCancellation) ?_
  decide

end UmojaFlowOS.Payments
