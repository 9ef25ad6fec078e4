import UmojaFlowOS.Settlement.SagaScan
import UmojaFlowOS.Settlement.Proofs.StoreLocks

/-!
# Fresh reservations

What `Reserve` does on a key that no saga uses, with the scan of the source, and
which freshly reserved rows the constraints of `settlement_saga` admit together.
-/

namespace UmojaFlowOS.Settlement.PostgresSagaStore

open Go Interaction Relational

/-! ## The scan of the inserted row -/

/-- The row that `Reserve` inserts is returned with more columns than `scanSaga`
has destinations. -/
theorem scanSaga_returnedColumns (record : SettlementRecord) :
    scanSaga (returnedColumns record) =
      .error (.new "sql: expected 17 destination arguments in Scan, not 15") := by
  have columns : (returnedColumns record).length = 17 := rfl
  have destinations : scanSagaDestinations.length = 15 := rfl
  have text : "sql: expected " ++ Nat.repr 17 ++ " destination arguments in Scan, not " ++
      Nat.repr 15 = "sql: expected 17 destination arguments in Scan, not 15" := by decide
  have different : (returnedColumns record).length ≠ scanSagaDestinations.length := by
    rw [columns, destinations]
    decide
  unfold scanSaga
  rw [scan_of_length_ne different, columns, destinations, text]
  rfl

/-- One store call served alone from a store state, with what was left open at
each of its requests. -/
def servedFrom {α : Type} (s : StoreState) (i : Nat) (call : StoreCall) (program : Sql α)
    (choices : List SqlChoice) : Option (α × StoreState) :=
  program.serve (fun s request choice => s.exec i call request choice) s choices

/-- What reserving a fresh intent should do: the row, its first transition and its
event are committed, and the row is returned as owned. -/
def ReservesFresh (intent : Intent) (digest : String) (before : Database)
    (answer : SettlementRecord × Bool × Option GoError) (after : Database) : Prop :=
  ∃ now, answer = (reservedRecord intent digest now, true, none) ∧
    after = ⟨before.sagas ++ [{ record := reservedRecord intent digest now }],
      before.transitions ++
        [transitionRow (reservedRecord intent digest now) .unset .received "intent reserved"],
      before.outbox ++ [outboxRow (reservedRecord intent digest now)], before.authorizations⟩

/-- No saga of the tenant uses the key or the intent id. -/
structure FreshIntent (db : Database) (intent : Intent) : Prop where
  key : ∀ row ∈ db.sagas, row.key ≠ (intent.tenantID, intent.idempotencyKey)
  intentID : ∀ row ∈ db.sagas, (row.record.tenantID, row.record.intentID) ≠
    (intent.tenantID, intent.id)

variable {after s : StoreState} {call : StoreCall}

theorem db_of_executed (executed : Executed s i call request answer after)
    (uncommitted : request ≠ .run .commit) : after.db = s.db := by
  cases executed with
  | committed => exact absurd rfl uncommitted
  | _ => rfl

variable {tenantID : String}

theorem put_of_begun
    (begun : s.exec i call (.run (.beginTx tenantID)) choice = some (.ok (), after)) :
    ∃ stamp, after = s.put i { stamp := stamp, view := { tenantID := tenantID } } := by
  cases executed_of_exec begun with
  | begun _ stamp => exact ⟨stamp, rfl⟩
  | queried _ choice session _ rows authorizations found running queried =>
    cases choice <;> cases queried

/-- The insert of a row under an unused key, in a transaction that has just begun,
fails or returns the row. -/
theorem inserted_of_fresh
    (fresh : ∀ row ∈ s.db.sagas, row.key ≠ (record.tenantID, record.idempotencyKey))
    (executed : Executed (s.put i { stamp := stamp, view := { tenantID := tenantID } }) i call
      (.run (.insertSaga record)) answer after) :
    answer = .ok (some record) ∨ ∃ err, answer = .error err := by
  cases executed with
  | failed | failedOutside => exact .inr ⟨_, rfl⟩
  | queried _ choice session _ rows authorizations found running queried =>
    obtain rfl : { stamp := stamp, view := { tenantID := tenantID } } = session := by
      simpa [StoreState.session, StoreState.put] using found
    cases choice with
    | ok =>
      simp only [Session.query] at queried
      split_ifs at queried with waiting taken
      · obtain ⟨row, present, same⟩ := List.any_eq_true.mp taken
        exact absurd (of_decide_eq_true same) (fresh row present)
      · simp only [Option.some.injEq, Prod.mk.injEq] at queried
        exact .inl queried.1.symm
    | _ => cases queried

/-- The transaction of a fresh reservation, once begun, ends with the error of the
insert or of the scan, and commits nothing. -/
theorem reserveTx_fresh_fails (fresh : FreshIntent s.db intent)
    (served : servedFrom (s.put i { stamp := stamp, view := { tenantID := tenantID } }) i call
      (do
        let result ← reserveTxWith (fun record => scanSaga (returnedColumns record)) intent digest
        rollback
        return result) choices = some (answer, after)) :
    (∃ err, answer = ({}, false, some err)) ∧ after.db = s.db := by
  obtain ⟨_, _, now, read, -, reading, served⟩ := Program.serve_ask served
  have unread : read = s.put i { stamp := stamp, view := { tenantID := tenantID } } := by
    cases executed_of_exec reading
    rfl
  subst unread
  obtain ⟨_, _, returned, inserted, -, inserting, served⟩ := Program.serve_ask served
  have insertedDb := db_of_executed (executed_of_exec inserting) nofun
  have unused : ∀ row ∈ s.db.sagas, row.key ≠ ((reservedRecord intent digest now).tenantID,
      (reservedRecord intent digest now).idempotencyKey) := fresh.key
  have outcome := inserted_of_fresh unused (executed_of_exec inserting)
  -- Whether the insert or the scan fails, only the rollback is left.
  rcases outcome with rfl | ⟨err, rfl⟩
  · simp only [Option.elim, scanSaga_returnedColumns] at served
    obtain ⟨_, _, _, closed, -, closing, served⟩ := Program.serve_ask served
    cases Program.serve_ret served
    exact ⟨⟨_, rfl⟩, (db_of_executed (executed_of_exec closing) nofun).trans insertedDb⟩
  obtain ⟨_, _, _, closed, -, closing, served⟩ := Program.serve_ask served
  cases Program.serve_ret served
  exact ⟨⟨_, rfl⟩, (db_of_executed (executed_of_exec closing) nofun).trans insertedDb⟩

/-- From every store state and for every intent whose key no saga uses, `Reserve`
reports an error and leaves the tables as they were. -/
theorem reserveScanned_fresh_fails (fresh : FreshIntent s.db intent)
    (served : servedFrom s i (.reserve intent digest) (reserveScanned intent digest) choices =
      some (answer, after)) : (∃ err, answer = ({}, false, some err)) ∧ after.db = s.db := by
  obtain ⟨_, _, now, read, -, reading, checking⟩ := Program.serve_ask served
  obtain rfl : s = read := by
    cases executed_of_exec reading
    rfl
  cases checked : validateReservedIntent now intent digest with
  | some err =>
    simp only [checked] at checking
    cases Program.serve_ret checking
    exact ⟨⟨err, rfl⟩, rfl⟩
  | none =>
    simp only [checked, withTx] at checking
    by_cases blank : trimSpace intent.tenantID = ""
    · simp only [blank] at checking
      cases Program.serve_ret checking
      exact ⟨⟨_, rfl⟩, rfl⟩
    simp only [blank] at checking
    obtain ⟨_, _, begun, opened, -, beginning, reserving⟩ := Program.serve_ask checking
    have openedDb := db_of_executed (executed_of_exec beginning) nofun
    cases begun with
    | error err =>
      cases Program.serve_ret reserving
      exact ⟨⟨err, rfl⟩, openedDb⟩
    | ok _ =>
      obtain ⟨stamp, rfl⟩ := put_of_begun beginning
      exact reserveTx_fresh_fails fresh reserving

/-- Reserving a fresh intent never does what it should, whatever the tables hold,
whatever else is open and however its statements go. -/
theorem reserve_of_fresh_intent_never_commits {s after : StoreState} {i : Nat} {intent : Intent}
    {digest : String} {choices : List SqlChoice}
    {answer : SettlementRecord × Bool × Option GoError} (fresh : FreshIntent s.db intent)
    (served : servedFrom s i (.reserve intent digest) (reserveScanned intent digest) choices =
      some (answer, after)) :
    ¬ ReservesFresh intent digest s.db answer after.db ∧
      (∃ err, answer = ({}, false, some err)) ∧ after.db = s.db := by
  obtain ⟨failed, unchanged⟩ := reserveScanned_fresh_fails fresh served
  refine ⟨?_, failed, unchanged⟩
  rintro ⟨now, owned, -⟩
  obtain ⟨err, refused⟩ := failed
  rw [refused] at owned
  exact absurd owned (by simp)

def undisturbed : List SqlChoice := [.reads 0, .begins fun _ => 0, .reads 0, .ok, .ok]

/-- What `Reserve` answers then: the error of the scan. -/
def scanFailure : SettlementRecord × Bool × Option GoError :=
  ({}, false, some (.new "sql: expected 17 destination arguments in Scan, not 15"))

theorem deposit_is_fresh : FreshIntent ({} : Database) depositIntent :=
  ⟨by simp, by simp⟩

theorem deposit_reservation_served :
    servedFrom {} 0 (.reserve depositIntent depositIntent.payloadSHA256)
      (reserveScanned depositIntent depositIntent.payloadSHA256) undisturbed =
        some (scanFailure, {}) := rfl

/-- The reservation of a deposit ends in the error of its scan. -/
theorem deposit_reservation_commits_nothing :
    ¬ ReservesFresh depositIntent depositIntent.payloadSHA256 {} scanFailure {} :=
  (reserve_of_fresh_intent_never_commits deposit_is_fresh deposit_reservation_served).1

/-- A valid deposit into an empty store, no statement failing: the row is inserted,
its scan fails, and the transaction is rolled back. -/
theorem valid_deposit_is_not_reserved :
    validateReservedIntent 0 depositIntent depositIntent.payloadSHA256 = none ∧
      FreshIntent ({} : Database) depositIntent ∧
      servedFrom {} 0 (.reserve depositIntent depositIntent.payloadSHA256)
        (reserveScanned depositIntent depositIntent.payloadSHA256) undisturbed =
          some (scanFailure, {}) ∧
      ¬ ReservesFresh depositIntent depositIntent.payloadSHA256 {} scanFailure {} := by
  refine ⟨by decide, deposit_is_fresh, deposit_reservation_served, ?_⟩
  rintro ⟨now, owned, -⟩
  exact absurd owned (by simp [scanFailure])

/-! ## Fresh rows of one tenant -/

structure Reservation where
  intent : Intent
  digest : String
  now : Time

/-- The row a reservation inserts; its identifiers are NULL. -/
def Reservation.row (r : Reservation) : SagaRow := { record := reservedRecord r.intent r.digest r.now }

theorem pendingID_of_wellFormed (wellFormed : WellFormed { sagas := first :: second :: rest })
    (tenant : first.record.tenantID = second.record.tenantID) :
    first.record.ledgerPendingID ≠ second.record.ledgerPendingID := by
  intro same
  have distinct := wellFormed.pendingKey
  rw [List.map_cons, List.map_cons] at distinct
  have apart := (List.nodup_cons.mp distinct).1
  rw [tenant, same] at apart
  exact apart List.mem_cons_self

theorem nodup_tenant_key {reservations : List Reservation} (value : SagaRow → String)
    (distinct : (reservations.map fun r => value r.row).Nodup) :
    ((reservations.map Reservation.row).map fun row => (row.record.tenantID, value row)).Nodup := by
  apply List.Nodup.of_map Prod.snd
  simpa only [List.map_map, Function.comp_def] using distinct

/-- Freshly reserved rows of one tenant, each of which the table admits alone and
which differ in their keys, intent ids and saga ids, do not collide in any of these
three, and are still admitted together only when there are fewer than two of them. -/
theorem fresh_rows_fit_together_iff {tenantID : String} {reservations : List Reservation}
    (tenant : ∀ r ∈ reservations, r.intent.tenantID = tenantID)
    (keys : (reservations.map (·.intent.idempotencyKey)).Nodup)
    (intentIDs : (reservations.map (·.intent.id)).Nodup)
    (sagaIDs : (reservations.map (·.row.record.sagaID)).Nodup)
    (admissible : ∀ r ∈ reservations, WellFormed { sagas := [r.row] }) :
    (((reservations.map Reservation.row).map SagaRow.sagaKey).Nodup ∧
      ((reservations.map Reservation.row).map SagaRow.key).Nodup ∧
      ((reservations.map Reservation.row).map fun row =>
        (row.record.tenantID, row.record.intentID)).Nodup) ∧
      (WellFormed { sagas := reservations.map Reservation.row } ↔ reservations.length ≤ 1) := by
  have separate := And.intro (nodup_tenant_key (·.record.sagaID) sagaIDs)
    (And.intro (nodup_tenant_key (·.record.idempotencyKey) keys)
      (nodup_tenant_key (·.record.intentID) intentIDs))
  refine ⟨separate, ?_⟩
  constructor
  · intro together
    match reservations with
    | [] => exact Nat.zero_le 1
    | [_] => exact le_rfl
    | first :: second :: rest =>
      have sameTenant : first.intent.tenantID = second.intent.tenantID :=
        (tenant first (by simp)).trans (tenant second (by simp)).symm
      have apart : first.row.record.ledgerPendingID ≠ second.row.record.ledgerPendingID :=
        pendingID_of_wellFormed together sameTenant
      exact absurd rfl apart
  intro few
  match reservations with
  | [] => exact by decide
  | [only] => exact admissible only (by simp)
  | _ :: _ :: _ => exact absurd few (by simp)

def firstDeposit : Reservation := ⟨depositIntent, depositIntent.payloadSHA256, 0⟩

def secondDeposit : Reservation :=
  ⟨{ depositIntent with id := "intent-2", idempotencyKey := "key-2" },
    depositIntent.payloadSHA256, 1⟩

def twoDeposits : List Reservation := [firstDeposit, secondDeposit]

theorem twoDeposits_tenant : ∀ r ∈ twoDeposits, r.intent.tenantID = "tenant-a" := by
  decide

theorem twoDeposits_sagaIDs : (twoDeposits.map (·.row.record.sagaID)).Nodup := by
  decide +kernel

theorem twoDeposits_admissible : ∀ r ∈ twoDeposits, WellFormed { sagas := [r.row] } := by
  decide +kernel

/-- The two fresh rows have no pending transfer yet, and collide in that. -/
theorem two_deposits_do_not_fit :
    WellFormed { sagas := twoDeposits.map Reservation.row } ↔ twoDeposits.length ≤ 1 :=
  (fresh_rows_fit_together_iff twoDeposits_tenant (by decide) (by decide) twoDeposits_sagaIDs
    twoDeposits_admissible).2

/-- Both deposits can be reserved alone and share no key, but the table does not
hold them together. -/
theorem second_deposit_is_blocked :
    (∀ r ∈ twoDeposits, r.intent.tenantID = "tenant-a") ∧
      (twoDeposits.map (·.intent.idempotencyKey)).Nodup ∧
      (twoDeposits.map (·.intent.id)).Nodup ∧ (twoDeposits.map (·.row.record.sagaID)).Nodup ∧
      (∀ r ∈ twoDeposits, WellFormed { sagas := [r.row] }) ∧
      ¬ WellFormed { sagas := twoDeposits.map Reservation.row } := by
  refine ⟨twoDeposits_tenant, by decide, by decide, twoDeposits_sagaIDs, twoDeposits_admissible, ?_⟩
  intro together
  have apart : firstDeposit.row.record.ledgerPendingID ≠ secondDeposit.row.record.ledgerPendingID :=
    pendingID_of_wellFormed together rfl
  exact apart rfl

end UmojaFlowOS.Settlement.PostgresSagaStore
