import UmojaFlowOS.Interaction.Guarded
import UmojaFlowOS.Payments.Proofs.PaymentContract

/-!
# What one call does

The ways in which a call of the workflow can go, what the answers have in common with the
calls, and the contract that every caller is under.
-/

namespace UmojaFlowOS.Payments

open Interaction Relational

inductive PaymentEffect (s : PaymentStore) (i : Nat) :
    (call : PaymentCall) → call.Answer → PaymentStore → Prop
  | read (time : Int) : PaymentEffect s i .now time s
  | drawn (id : Uuid) : PaymentEffect s i .randomUUID id s
  | rolledBack : PaymentEffect s i .rollback () (s.close i)
  | begun : PaymentEffect s i (.run .begin) (.ok ()) (s.put i {})
  | committed (session : PaymentSession) (answer : Except String Unit) :
      s.live i = some session → PaymentEffect s i (.run .commit) answer (s.commit i session)
  | refused (text : String) : PaymentEffect s i (.run .commit) (.error text) (s.close i)
  | failed (statement : Statement) (text : String) :
      PaymentEffect s i (.run statement) (.error text) (s.spoil i)
  | answered (statement : Statement) (choice : PaymentChoice) (session : PaymentSession)
      (rows : statement.Rows) : s.live i = some session →
      session.answer (s.tables.applyAll session.view.writes) statement choice = some (.ok rows) →
      s.waits i (session.advance (s.tables.applyAll session.view.writes) statement rows) = false →
      PaymentEffect s i (.run statement) (.ok rows)
        (s.put i (session.advance (s.tables.applyAll session.view.writes) statement rows))

theorem paymentEffect_of_query {s : PaymentStore} (open_ : s.live i = some session)
    (done : s.query i session statement choice = some (answer, after)) :
    PaymentEffect s i (.run statement) answer after := by
  unfold PaymentStore.query at done
  dsimp only at done
  split at done
  · cases done
  · cases done
    exact .failed statement _
  rename_i rows answered
  split at done
  · cases done
  rename_i free
  cases done
  exact .answered statement choice session rows open_ answered (by simpa using free)

/-- Inversion of one call. -/
theorem paymentEffect_of_exec {s : PaymentStore}
    (done : s.exec i call choice = some (answer, after)) : PaymentEffect s i call answer after := by
  unfold PaymentStore.exec at done
  split at done
  · cases done
    exact .read _
  · cases done
    exact .drawn _
  · cases done
    exact .rolledBack
  · cases done
    exact .begun
  · obtain ⟨session, open_, same⟩ := Option.map_eq_some_iff.mp done
    cases same
    exact .committed session _ open_
  · obtain ⟨session, open_, same⟩ := Option.map_eq_some_iff.mp done
    cases same
    exact .committed session _ open_
  · cases done
    exact .refused _
  · cases done
    exact .failed _ _
  · obtain ⟨session, open_, queried⟩ := Option.bind_eq_some_iff.mp done
    exact paymentEffect_of_query open_ queried
  · cases done

/-! ## Answers -/

inductive Answered (session : PaymentSession) (t : PaymentTables) :
    (statement : Statement) → statement.Rows → Prop
  | observation (id : Uuid) :
      Answered session t (.selectObservation id) (t.observations.find? fun row => row.id = id)
  | insertedLock (new : NewLock) (id : Uuid) : (∀ row ∈ t.locks, row.id ≠ id) →
      0 < (new.row id).lockedRate.unscaled → Answered session t (.insertLock new) (some id)
  | lock (id : Uuid) : Answered session t (.selectLock id) (t.locks.find? fun row => row.id = id)
  | binding (id : Uuid) : Answered session t (.selectBinding id)
      ((t.locks.find? fun row => row.id = id).map (·.paymentOrderID))
  | cancelledLock (id : Uuid) :
      Answered session t (.cancelLock id) ((t.locks.find? fun row => row.id = id).map (·.id))
  | expired (given : Option Int) (rows : List RateLock) :
      (∀ row ∈ rows, row ∈ t.locks ∧ row.status = .locked) →
      Answered session t (.expireLocks given) rows
  | beneficiary (id : Uuid) :
      Answered session t (.selectBeneficiary id) (t.beneficiaries.find? fun row => row.id = id)
  | derived (source rate : Numeric) :
      Answered session t (.derive source rate) ((source.mul rate).roundTo 8)
  | insertedOrder (new : NewOrder) (id : Uuid) : (∀ row ∈ t.orders, row.id ≠ id) →
      (∀ row ∈ t.orders, row.idempotencyKey ≠ new.idempotencyKey) →
      0 < (new.row id).sourceAmount.unscaled → Answered session t (.insertOrder new) (some id)
  | conflicting (new : NewOrder) : Answered session t (.insertOrder new) none
  | replay (key : String) : Answered session t (.selectReplay key)
      ((t.orders.find? fun row => row.idempotencyKey = key).map fun row =>
        ⟨row.id, row.status, row.targetAmount,
          (t.locks.find? fun lock => lock.paymentOrderID = some row.id).map (·.id)⟩)
  | bound (order lock : Uuid) (count : Nat) : Answered session t (.bindLock order lock) count
  | order (id : Uuid) : Answered session t (.selectOrder id) (t.orders.find? fun row => row.id = id)
  | authorised (id : Uuid) (count : Nat) : Answered session t (.countAuthorised id) count
  | insertedLeg (new : NewLeg) (id : Uuid) : (∀ row ∈ t.legs, row.id ≠ id) →
      Answered session t (.insertLeg new) (some id)
  | updatedOrder (status : String) (id : Uuid) :
      Answered session t (.updateOrder status id) ((t.orders.find? fun row => row.id = id).map (·.id))
  | started (id : Uuid) : Answered session t (.startSelectLeg id) ()
  | leg (id : Uuid) : Answered session t (.selectLeg id)
      ((t.legs.find? fun row => row.id = id).bind fun leg =>
        (session.snapshot.find? fun order => order.id = leg.paymentOrderID).map fun order =>
          (leg, order.status))
  | updatedLeg (status : String) (id : Uuid) :
      Answered session t (.updateLeg status id) ((t.legs.find? fun row => row.id = id).map (·.id))
  | event (event : ActivityEvent) : Answered session t (.recordEvent event) ()

section
variable {session : PaymentSession} {t : PaymentTables} {statement : Statement}
  {choice : PaymentChoice} {rows : statement.Rows}

theorem answered_insertLock {id : Uuid}
    (answered : session.answer t (.insertLock new) (.assigns id) = some (.ok found)) :
    Answered session t (.insertLock new) found := by
  simp only [PaymentSession.answer] at answered
  split at answered
  · cases answered
  rename_i fresh
  split at answered
  · cases answered
  split at answered
  · cases answered
  rename_i positive
  cases answered
  refine .insertedLock new id (by simpa using fresh) ?_
  exact not_le.mp fun zero => positive (.inl zero)

theorem answered_insertOrder {id : Uuid}
    (answered : session.answer t (.insertOrder new) (.assigns id) = some (.ok found)) :
    Answered session t (.insertOrder new) found := by
  simp only [PaymentSession.answer] at answered
  split at answered
  · cases answered
  rename_i fresh
  split at answered
  · cases answered
  split at answered
  · cases answered
  rename_i positive
  split at answered
  · cases answered
    exact .conflicting new
  rename_i unused
  cases answered
  exact .insertedOrder new id (by simpa using fresh) (by simpa using unused) (not_le.mp positive)

theorem answered_insertLeg {id : Uuid}
    (answered : session.answer t (.insertLeg new) (.assigns id) = some (.ok found)) :
    Answered session t (.insertLeg new) found := by
  simp only [PaymentSession.answer] at answered
  split at answered
  · cases answered
  rename_i fresh
  split at answered
  · cases answered
  split at answered
  · cases answered
  split at answered
  · cases answered
  split at answered
  · cases answered
  cases answered
  exact .insertedLeg new id (by simpa using fresh)

theorem answered_of_answer (answered : session.answer t statement choice = some (.ok rows)) :
    Answered session t statement rows := by
  have whole := answered
  unfold PaymentSession.answer at answered
  split at answered
  case h_2 => exact answered_insertLock whole
  case h_6 =>
    cases answered
    refine .expired _ _ fun row member => ?_
    obtain ⟨present, matched⟩ := List.mem_filter.mp member
    simp only [Bool.and_eq_true, decide_eq_true_eq] at matched
    exact ⟨present, matched.1.1⟩
  case h_9 => exact answered_insertOrder whole
  case h_14 => exact answered_insertLeg whole
  case h_15 =>
    split at answered
    · cases answered
    · cases answered
      exact .updatedOrder _ _
  case h_18 =>
    split at answered
    · cases answered
    · cases answered
      exact .updatedLeg _ _
  case h_20 => cases answered
  all_goals
    cases answered
    constructor

theorem find?_id {ρ : Type} {id : ρ → Uuid} {wanted : Uuid} {table : List ρ} {row : ρ}
    (found : table.find? (fun row => id row = wanted) = some row) : row ∈ table ∧ id row = wanted :=
  ⟨List.mem_of_find?_eq_some found, by simpa using List.find?_some found⟩

theorem honest_of_answered (answered : Answered session t statement rows) :
    honest ⟨.run statement, .ok rows⟩ := by
  cases answered
  case lock id | cancelledLock id =>
    cases found : t.locks.find? fun row => row.id = id with
    | none => trivial
    | some row => exact (find?_id found).2
  case order id | updatedOrder status id =>
    cases found : t.orders.find? fun row => row.id = id with
    | none => trivial
    | some row => exact (find?_id found).2
  case leg id =>
    cases found : t.legs.find? fun row => row.id = id with
    | none => trivial
    | some row =>
      rw [Option.bind_some]
      cases session.snapshot.find? fun order => order.id = row.paymentOrderID with
      | none => trivial
      | some order => exact (find?_id found).2
  case updatedLeg status id =>
    cases found : t.legs.find? fun row => row.id = id with
    | none => trivial
    | some row => exact (find?_id found).2
  case insertedOrder positive => exact positive
  case derived => rfl
  all_goals trivial

end

theorem honest_of_effect (effect : PaymentEffect s i call answer after) :
    honest ⟨call, answer⟩ := by
  cases effect with
  | read | drawn | rolledBack | begun | refused => trivial
  | committed session answer => cases answer <;> trivial
  | failed statement text => cases statement <;> trivial
  | answered statement choice session rows open_ answered free =>
    exact honest_of_answered (answered_of_answer answered)

/-! ## Callers -/

theorem caller_of_reaches {thread : PaymentThread}
    (reached : controlPlane.Reaches ⟨{}, []⟩ config) (present : thread ∈ config.threads) :
    Meets (paymentContract thread.label)
      (fun later result => ∀ outcome, result = .ok outcome → JobEnds thread.label later outcome)
      (paymentSeenIn thread.past) thread.rest := by
  obtain ⟨shared, program, spawned, ran⟩ := reached.run_of_thread rfl present
  obtain rfl : thread.label.code.run = program := Option.some.inj spawned
  obtain ⟨i, found⟩ := List.getElem?_of_mem present
  have told := reached.told_of_new (fun _ => True) honest (fun _ _ _ => trivial)
    (fun _ _ done => honest_of_effect (paymentEffect_of_exec done)) trivial
  have all := told.2 i thread (Nat.zero_le _) found
  exact ((code_keeps thread.label).run ran (relied_of_forall all)).2

end UmojaFlowOS.Payments
