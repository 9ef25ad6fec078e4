import UmojaFlowOS.Settlement.Proofs.StoreContract

/-!
# Row locks

A row that an open transaction has locked stays as it was read until that
transaction ends, so every commit acts on the rows its caller has checked.
-/

namespace UmojaFlowOS.Settlement.PostgresSagaStore

open Interaction Relational

/-! ## What one call of the store does -/

inductive Executed (s : StoreState) (i : Nat) (call : StoreCall) :
    (request : SqlCall) → request.Answer → StoreState → Prop
  | read (time : Time) : Executed s i call .now time s
  | rolledBack : Executed s i call .rollback () (s.close i)
  | begun (tenantID : String) (stamp : String → Time) :
      Executed s i call (.run (.beginTx tenantID)) (.ok ())
        (s.put i { stamp := stamp, view := { tenantID := tenantID } })
  | refused (text : String) : Executed s i call (.run .commit) (.error (.database text)) (s.close i)
  | committed (session : Session) (answer : Except GoError Unit) :
      s.session i = some session → session.failed = false → WellFormed (session.visible s.db) →
      (answer = .ok () ∨ ∃ text, answer = .error (.database text)) →
      Executed s i call (.run .commit) answer (s.commit i call session)
  | failed (statement : Statement) (text : String) (session : Session) : statement ≠ .commit →
      s.session i = some session →
      Executed s i call (.run statement) (.error (.database text))
        (s.put i { session with failed := true })
  | failedOutside (statement : Statement) (text : String) : statement ≠ .commit →
      s.session i = none →
      Executed s i call (.run statement) (.error (.database text)) s
  | queried (statement : Statement) (choice : SqlChoice) (session : Session)
      (answer : Except GoError statement.Rows) (rows : List SagaRow)
      (authorizations : List AuthorizationRow) :
      s.session i = some session → session.failed = false →
      session.query s i statement choice = some (answer, rows, authorizations) →
      Executed s i call (.run statement) answer (s.put i
        { session with
          view := session.view.observe ⟨.run statement, answer⟩
          locks := session.locks ++ rows
          authorizationLocks := session.authorizationLocks ++ authorizations })

/-- Inversion of one call. -/
theorem executed_of_exec {i : Nat} {call : StoreCall} {request : SqlCall} {choice : SqlChoice}
    {answer : request.Answer} (done : s.exec i call request choice = some (answer, after)) :
    Executed s i call request answer after := by
  unfold StoreState.exec at done
  split at done
  · cases done
    exact .read _
  · cases done
  · cases done
    exact .rolledBack
  · cases done
  · cases done
    exact .begun _ _
  · cases done
    exact .refused _
  · split at done
    · split at done
      · cases done
        exact .committed _ _ ‹_› (by simp_all) (by simp_all) (.inl rfl)
      · cases done
    · cases done
  · split at done
    · split at done
      · cases done
        exact .committed _ _ ‹_› (by simp_all) (by simp_all) (.inr ⟨_, rfl⟩)
      · cases done
    · cases done
  · cases done
    cases open_ : s.session i with
    | some session => exact .failed _ _ _ (by simp_all) open_
    | none => exact .failedOutside _ _ (by simp_all) open_
  split at done
  · split at done
    · cases done
    obtain ⟨⟨result, rows, authorizations⟩, queried, same⟩ := Option.map_eq_some_iff.mp done
    cases same
    exact .queried _ _ _ _ _ _ ‹_› (by simp_all) queried
  · cases done

/-! ## What a transaction holds -/

/-- What the caller of `session` has learned or is about to update is in rows it has locked, as
they are committed. -/
structure Covers (db : Database) (session : Session) : Prop where
  locks : ∀ row ∈ session.locks, row ∈ db.sagas
  authorizationLocks : ∀ row ∈ session.authorizationLocks, row ∈ db.authorizations
  reads : ∀ record ∈ session.view.reads, ∃ row ∈ session.locks, row.record = record
  leases : ∀ sagaKey owner leasedUntil, (sagaKey, owner, leasedUntil) ∈ session.view.leases →
    ∃ row ∈ session.locks, row.sagaKey = sagaKey ∧ row.leaseOwner = owner ∧
      row.leasedUntil = leasedUntil
  approvals : ∀ a now, (a, now) ∈ session.view.approvals →
    ∃ row ∈ session.authorizationLocks, row.key = (a.tenantID, a.sagaID, a.authorizationID) ∧
      row.authorization.tenantID = session.view.tenantID ∧ row.authorization.decision = a.decision ∧
      row.authorization.reconciliationRunID = a.reconciliationRunID ∧
      row.consumed = none ∧ now < row.authorization.expiresAt
  claims : ∀ tenantID keys owner leasedUntil,
    .lease tenantID keys owner leasedUntil ∈ session.view.writes → ∀ key ∈ keys,
      ∃ row ∈ session.locks, row.key = (tenantID, key) ∧ row.record.stage = .unknown
  consumes : ∀ now owner tenantID sagaID id,
    .consume now owner tenantID sagaID id ∈ session.view.writes →
      ∃ row ∈ session.authorizationLocks, row.key = (tenantID, sagaID, id) ∧ row.consumed = none

variable {db : Database}

/-- Only the locked rows have to stay for a session to stay covered. -/
theorem Covers.transfer {session : Session} (covers : Covers db session)
    (sagas : ∀ row ∈ session.locks, row ∈ later.sagas)
    (authorizations : ∀ row ∈ session.authorizationLocks, row ∈ later.authorizations) :
    Covers later session :=
  { covers with locks := sagas, authorizationLocks := authorizations }

theorem Covers.fail {session : Session} (covers : Covers db session) :
    Covers db { session with failed := true } :=
  ⟨covers.locks, covers.authorizationLocks, covers.reads, covers.leases, covers.approvals,
    covers.claims, covers.consumes⟩

theorem visible_of_unwritten {session : Session}
    (unwritten : session.view.writes = []) : session.visible db = db := by
  unfold Session.visible
  rw [unwritten]
  rfl

theorem key_ne_of_free {ρ κ : Type} [DecidableEq κ] {key : ρ → κ} {locks : Session → List ρ}
    {sessions : Sessions Session} {i j : Nat} {row held : ρ} {other : Session}
    (free : (sessions.elsewhere i fun other => (locks other).any (key · = key row)) = false)
    (open_ : sessions.get j = some other) (different : j ≠ i) (locked : held ∈ locks other) :
    key held ≠ key row := by
  intro same
  have unheld := List.any_eq_false.mp (Sessions.elsewhere_eq_false.mp free j other open_ different)
  exact unheld held locked (by simpa using same)

/-- A statement adds to the view only what is in the rows it locks. -/
structure Grows (session : Session) (view : View) (rows : List SagaRow)
    (authorizations : List AuthorizationRow) : Prop where
  reads : ∀ record ∈ view.reads, record ∈ session.view.reads ∨ ∃ row ∈ rows, row.record = record
  leases : ∀ sagaKey owner leasedUntil, (sagaKey, owner, leasedUntil) ∈ view.leases →
    (sagaKey, owner, leasedUntil) ∈ session.view.leases ∨
      ∃ row ∈ rows, row.sagaKey = sagaKey ∧ row.leaseOwner = owner ∧ row.leasedUntil = leasedUntil
  approvals : ∀ a now, (a, now) ∈ view.approvals → (a, now) ∈ session.view.approvals ∨
    ∃ row ∈ authorizations, row.key = (a.tenantID, a.sagaID, a.authorizationID) ∧
      row.authorization.tenantID = session.view.tenantID ∧ row.authorization.decision = a.decision ∧
      row.authorization.reconciliationRunID = a.reconciliationRunID ∧
      row.consumed = none ∧ now < row.authorization.expiresAt
  claims : ∀ tenantID keys owner leasedUntil, .lease tenantID keys owner leasedUntil ∈ view.writes →
    .lease tenantID keys owner leasedUntil ∈ session.view.writes ∨
      ∀ key ∈ keys, ∃ row ∈ rows, row.key = (tenantID, key) ∧ row.record.stage = .unknown
  consumes : ∀ now owner tenantID sagaID id, .consume now owner tenantID sagaID id ∈ view.writes →
    .consume now owner tenantID sagaID id ∈ session.view.writes ∨
      ∃ row ∈ authorizations, row.key = (tenantID, sagaID, id) ∧ row.consumed = none
  tenantID : view.tenantID = session.view.tenantID

theorem Grows.refl (session : Session) (rows : List SagaRow)
    (authorizations : List AuthorizationRow) : Grows session session.view rows authorizations :=
  ⟨fun _ h => .inl h, fun _ _ _ h => .inl h, fun _ _ h => .inl h, fun _ _ _ _ h => .inl h,
    fun _ _ _ _ _ h => .inl h, rfl⟩

theorem Covers.grow {session : Session} (covers : Covers db session)
    (stored : ∀ row ∈ rows, row ∈ db.sagas)
    (storedAuthorizations : ∀ row ∈ authorizations, row ∈ db.authorizations)
    (grows : Grows session view rows authorizations) :
    Covers db { session with
      view := view
      locks := session.locks ++ rows
      authorizationLocks := session.authorizationLocks ++ authorizations } := by
  refine ⟨?_, ?_, ?_, ?_, ?_, ?_, ?_⟩
  · exact List.forall_mem_append.mpr ⟨covers.locks, stored⟩
  · exact List.forall_mem_append.mpr ⟨covers.authorizationLocks, storedAuthorizations⟩
  · intro record seen
    exact exists_mem_append.mpr ((grows.reads record seen).imp_left (covers.reads record))
  · intro sagaKey owner leasedUntil seen
    exact exists_mem_append.mpr ((grows.leases _ _ _ seen).imp_left (covers.leases _ _ _))
  · intro a now seen
    simp only [grows.tenantID]
    exact exists_mem_append.mpr ((grows.approvals a now seen).imp_left (covers.approvals a now))
  · intro tenantID keys owner leasedUntil written key named
    exact exists_mem_append.mpr ((grows.claims _ _ _ _ written).imp
      (fun claimed => covers.claims _ _ _ _ claimed key named) fun claimed => claimed key named)
  intro now owner tenantID sagaID id written
  exact exists_mem_append.mpr
    ((grows.consumes _ _ _ _ _ written).imp_left (covers.consumes _ _ _ _ _))

theorem authorizations_applyAll (unconsumed : ∀ write ∈ writes, ∀ now owner tenantID sagaID id,
      write ≠ .consume now owner tenantID sagaID id) :
    (db.applyAll stamp writes).authorizations = db.authorizations := by
  induction writes generalizing db with
  | nil => rfl
  | cons write writes ih =>
    show ((db.apply stamp write).applyAll stamp writes).authorizations = _
    rw [ih fun later present => unconsumed later (by simp [present])]
    cases write with
    | consume now owner tenantID sagaID id =>
      exact absurd rfl (unconsumed _ List.mem_cons_self now owner tenantID sagaID id)
    | _ => rfl

/-- What a statement answers and locks, for a caller that keeps its contract. -/
structure Queried (s : StoreState) (i : Nat) (session : Session) (statement : Statement)
    (answer : Except GoError statement.Rows) (rows : List SagaRow)
    (authorizations : List AuthorizationRow) : Prop where
  rely : sqlRely ⟨.run statement, answer⟩
  grows : Grows session (session.view.observe ⟨.run statement, answer⟩) rows authorizations
  sagas : ∀ row ∈ rows, row ∈ s.db.sagas ∧ s.lockedElsewhere i row = false
  approvals : ∀ row ∈ authorizations, row ∈ s.db.authorizations ∧
    s.authorizationLockedElsewhere i row = false

section
variable {s : StoreState} {i : Nat} {session : Session} {rows : List SagaRow}
  {authorizations : List AuthorizationRow}

theorem free_of_filter {ρ : Type} {stored : List ρ} {condition locked : ρ → Bool}
    (free : ¬ (stored.filter condition).any locked = true) :
    ∀ row ∈ stored.filter condition, row ∈ stored ∧ locked row = false := by
  intro row held
  refine ⟨(List.mem_filter.mp held).1, ?_⟩
  simpa using fun taken => free (List.any_eq_true.mpr ⟨row, held, taken⟩)

theorem queried_insertSaga
    (queried : session.query s i (.insertSaga record) .ok = some (answer, rows, authorizations)) :
    Queried s i session (.insertSaga record) answer rows authorizations := by
  unfold Session.query at queried
  dsimp only at queried
  split_ifs at queried with _ conflict
  · cases queried
    exact ⟨trivial, .refl _ _ _, by simp, by simp⟩
  cases queried
  refine ⟨rfl, ⟨?_, ?_, ?_, ?_, ?_, ?_⟩, by simp, by simp⟩ <;>
    simp +contextual [View.observe, View.after, View.write]

variable {tenantID : String}

section
variable (unwritten : session.view.writes = [])
include unwritten

theorem queried_selectSaga {answer : Except GoError SettlementRecord}
    (queried : session.query s i (.selectSagaForUpdate tenantID key) .ok =
      some (answer, rows, authorizations)) :
    Queried s i session (.selectSagaForUpdate tenantID key) answer rows authorizations := by
  unfold Session.query at queried
  dsimp only at queried
  rw [visible_of_unwritten unwritten] at queried
  split at queried
  · cases queried
    exact ⟨trivial, .refl _ _ _, by simp, by simp⟩
  rename_i row found
  have stored := List.mem_of_find?_eq_some found
  have keyed := List.find?_some found
  simp only [SagaRow.key, Bool.and_eq_true, decide_eq_true_eq, Prod.mk.injEq] at keyed
  split_ifs at queried with free
  cases queried
  refine ⟨keyed.1, ⟨?_, ?_, ?_, ?_, ?_, ?_⟩, by simpa using ⟨stored, by simpa using free⟩, by simp⟩ <;>
    simp +contextual [View.observe, View.after, or_imp]

theorem queried_claimUnknown
    (queried : session.query s i (.claimUnknown tenantID now limit owner leasedUntil) (.picks keys) =
      some (answer, rows, authorizations)) :
    Queried s i session (.claimUnknown tenantID now limit owner leasedUntil) answer rows
      authorizations := by
  unfold Session.query at queried
  dsimp only at queried
  split_ifs at queried with picked
  cases queried
  have stored : ∀ row ∈ eligible s i session tenantID now, row ∈ s.db.sagas ∧
      s.lockedElsewhere i row = false ∧ row.record.tenantID = tenantID ∧
      row.record.stage = .unknown := by
    intro row present
    unfold eligible at present
    rw [visible_of_unwritten unwritten, List.mem_filter] at present
    obtain ⟨stored, conditions⟩ := present
    simp only [Bool.and_eq_true, decide_eq_true_eq, Bool.not_eq_true'] at conditions
    exact ⟨stored, conditions.2, conditions.1.1.1.1, conditions.1.1.2⟩
  have named : ∀ key ∈ keys, ∃ row ∈ eligible s i session tenantID now,
      row.record.idempotencyKey = key := by
    intro key present
    simp only [picksOldest, Bool.and_eq_true, List.all_eq_true, List.any_eq_true,
      decide_eq_true_eq] at picked
    exact picked.1.2 key present
  refine ⟨trivial, ⟨?_, ?_, ?_, ?_, ?_, ?_⟩, ?_, by simp⟩
  case refine_4 =>
    intro tenantID' keys' owner' leasedUntil' written
    simp only [View.observe, View.after, View.write, unwritten, List.nil_append,
      List.mem_singleton, Write.lease.injEq] at written
    obtain ⟨rfl, rfl, rfl, rfl⟩ := written
    right
    intro key present
    obtain ⟨row, taken, rfl⟩ := named key present
    obtain ⟨-, -, rfl, unknown⟩ := stored row taken
    exact ⟨row, List.mem_filter.mpr ⟨taken, by simpa using present⟩, rfl, unknown⟩
  case refine_7 =>
    intro row taken
    obtain ⟨present, free, -, -⟩ := stored row (List.mem_filter.mp taken).1
    exact ⟨present, free⟩
  all_goals simp +contextual [View.observe, View.after, View.write]

theorem queried_selectAuthorizationForUpdate {answer : Except GoError String}
    (queried : session.query s i (.selectAuthorizationForUpdate a now) .ok =
      some (answer, rows, authorizations)) :
    Queried s i session (.selectAuthorizationForUpdate a now) answer rows authorizations := by
  unfold Session.query at queried
  dsimp only at queried
  rw [visible_of_unwritten unwritten] at queried
  split at queried
  · cases queried
    exact ⟨trivial, .refl _ _ _, by simp, by simp⟩
  rename_i row found
  have stored := List.mem_of_find?_eq_some found
  have selected := List.find?_some found
  simp only [Bool.and_eq_true, decide_eq_true_eq] at selected
  obtain ⟨⟨⟨⟨⟨⟨⟨⟨key, tenant⟩, decision⟩, -⟩, -⟩, runID⟩, -⟩, unconsumed⟩, unexpired⟩ := selected
  have unconsumed : row.consumed = none := by simpa using unconsumed
  split_ifs at queried with free
  cases queried
  refine ⟨?_, ⟨?_, ?_, ?_, ?_, ?_, ?_⟩, by simp, by simpa using ⟨stored, by simpa using free⟩⟩
  case refine_1 =>
    have same := congrArg (·.2.2) key
    exact same
  case refine_4 =>
    intro a' now' approved
    rcases List.mem_append.mp approved with old | new
    · exact .inl old
    obtain ⟨rfl, rfl⟩ := Prod.mk.inj (List.mem_singleton.mp new)
    exact .inr ⟨row, List.mem_singleton.mpr rfl, key, tenant, decision, runID, unconsumed,
      unexpired⟩
  all_goals simp +contextual [View.observe, View.after, Except.isOk, Except.toBool]

theorem queried_selectLease {sagaID : String} {answer : Except GoError (String × Option Time)}
    (queried : session.query s i (.selectLease tenantID sagaID) .ok =
      some (answer, rows, authorizations)) :
    Queried s i session (.selectLease tenantID sagaID) answer rows authorizations := by
  unfold Session.query at queried
  dsimp only at queried
  rw [visible_of_unwritten unwritten] at queried
  split at queried
  · cases queried
    exact ⟨trivial, .refl _ _ _, by simp, by simp⟩
  rename_i row found
  have stored := List.mem_of_find?_eq_some found
  have keyed := List.find?_some found
  simp only [Bool.and_eq_true, decide_eq_true_eq] at keyed
  split_ifs at queried with free
  cases queried
  refine ⟨trivial, ⟨?_, ?_, ?_, ?_, ?_, ?_⟩, by simpa using ⟨stored, by simpa using free⟩, by simp⟩
  case refine_2 =>
    intro sagaKey owner leasedUntil leased
    rcases List.mem_append.mp leased with old | new
    · exact .inl old
    obtain ⟨rfl, same⟩ := Prod.mk.inj (List.mem_singleton.mp new)
    cases same
    exact .inr ⟨row, List.mem_singleton.mpr rfl, keyed.1, rfl, rfl⟩
  all_goals simp +contextual [View.observe, View.after]

end

theorem queried_consumeAuthorization {owner sagaID id : String} {answer : Except GoError Nat}
    (unconsumed : ∀ write ∈ session.view.writes, ∀ now owner tenantID sagaID id,
      write ≠ .consume now owner tenantID sagaID id)
    (queried : session.query s i (.consumeAuthorization now owner tenantID sagaID id) .ok =
      some (answer, rows, authorizations)) :
    Queried s i session (.consumeAuthorization now owner tenantID sagaID id) answer rows
      authorizations := by
  unfold Session.query at queried
  dsimp only at queried
  rw [Session.visible, authorizations_applyAll unconsumed] at queried
  split_ifs at queried with free
  cases queried
  refine ⟨trivial, ⟨?_, ?_, ?_, ?_, ?_, ?_⟩, by simp, free_of_filter free⟩
  case refine_5 =>
    intro now' owner' tenantID' sagaID' id' written
    simp only [View.observe, View.after] at written
    split at written
    · rename_i affected counted
      rcases List.mem_append.mp written with old | new
      · exact .inl old
      right
      have same := List.mem_singleton.mp new
      simp only [Write.consume.injEq] at same
      obtain ⟨-, -, rfl, rfl, rfl⟩ := same
      have positive := Nat.lt_of_lt_of_eq (Nat.succ_pos affected) (Except.ok.inj counted).symm
      obtain ⟨row, held⟩ := List.exists_mem_of_length_pos positive
      have matched := (List.mem_filter.mp held).2
      simp only [Bool.and_eq_true, decide_eq_true_eq, Option.isNone_iff_eq_none] at matched
      exact ⟨row, held, matched.1, matched.2⟩
    · exact .inl written
  all_goals
    simp only [View.observe, View.after]
    split <;> simp +contextual [View.write]

/-- What a statement answers and locks, one case for each statement. -/
theorem queried_of_query {call : StoreCall}
    (allowed : sqlGuar call ⟨session.view, committed, readings⟩ (.run statement))
    (queried : session.query s i statement choice = some (answer, rows, authorizations)) :
    Queried s i session statement answer rows authorizations := by
  -- a statement with a choice that is not its own has no answer
  cases statement <;> cases choice <;> try (cases queried; done)
  case insertSaga.ok => exact queried_insertSaga queried
  case selectSagaForUpdate.ok => exact queried_selectSaga allowed queried
  case updateSaga.ok | resolveSaga.ok =>
    unfold Session.query at queried
    dsimp only at queried
    rw [visible_of_unwritten allowed] at queried
    split_ifs at queried with free
    cases queried
    refine ⟨trivial, ⟨?_, ?_, ?_, ?_, ?_, ?_⟩, free_of_filter free, by simp⟩
    all_goals
      simp only [View.observe, View.after]
      split <;> simp +contextual [View.write]
  case claimUnknown.picks => exact queried_claimUnknown allowed queried
  case selectAuthorizationForUpdate.ok => exact queried_selectAuthorizationForUpdate allowed queried
  case selectLease.ok => exact queried_selectLease allowed queried
  case consumeAuthorization.ok => exact queried_consumeAuthorization allowed queried
  case selectAuthorization.ok =>
    unfold Session.query at queried
    dsimp only at queried
    split at queried <;> cases queried <;> exact ⟨trivial, .refl _ _ _, by simp, by simp⟩
  all_goals
    cases queried
    refine ⟨trivial, ⟨?_, ?_, ?_, ?_, ?_, ?_⟩, by simp, by simp⟩ <;>
      simp +contextual [View.observe, View.after, View.write, Except.isOk, Except.toBool]

end

end UmojaFlowOS.Settlement.PostgresSagaStore
