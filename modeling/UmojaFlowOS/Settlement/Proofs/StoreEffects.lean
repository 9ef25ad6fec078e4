import UmojaFlowOS.Settlement.Proofs.StoreLocks

/-!
# Commits as atomic steps

What the commit of each store call does to the committed tables, stated on the
row as it is at that moment. A system of concurrent calls changes the database only
by these steps.
-/

namespace UmojaFlowOS.Settlement.PostgresSagaStore

open Go Interaction Relational

/-- One committed store call that writes, as a step from `db`; `readings` are the
readings of its clock in its transaction. -/
inductive Effect (db : Database) (readings : List Time) : StoreCall → Database → Prop
  | reserved (intent : Intent) (digest : String) (now : Time) (stamp : String → Time) :
      Effect db readings (.reserve intent digest)
        (db.applyAll stamp (reserveWrites (reservedRecord intent digest now)))
  | advanced (call : StoreCall) (current : SettlementRecord) (next : ExecutionStage)
      (update : SagaUpdate) (row : SagaRow) (now : Time) (stamp : String → Time) :
      change call = some (current, next, update) → stageAllowsRecord current next = true →
      row ∈ db.sagas → Matches current row.record →
      Effect db readings call (db.applyAll stamp
        (advanceWrites current (recordWithUpdate row.record next update now) update.reason))
  | claimed (tenantID owner : String) (limit lease : Int) (now : Time) (keys : List String)
      (stamp : String → Time) :
      (∀ key ∈ keys, ∃ row ∈ db.sagas, row.key = (tenantID, key) ∧ row.record.stage = .unknown) →
      Effect db readings (.claimUnknownSagas tenantID owner limit lease)
        (db.applyAll stamp [.lease tenantID keys owner (now + lease)])
  | resolved (current : SettlementRecord) (owner : String) (authorization : ResolutionAuthorization)
      (update : SagaUpdate) (row : SagaRow) (approval used : AuthorizationRow)
      (leasedUntil leasedAt checked now consumed : Time) (stamp : String → Time) :
      row ∈ db.sagas → row.key = (current.tenantID, current.idempotencyKey) →
      row.record.sagaID = current.sagaID → row.record.version = current.version →
      row.record.stage = .unknown →
      trimSpace owner ≠ "" → row.leaseOwner = owner → row.leasedUntil = some leasedUntil →
      leasedAt ∈ readings → leasedAt < leasedUntil →
      approval ∈ db.authorizations → approval.key =
        (authorization.tenantID, authorization.sagaID, authorization.authorizationID) →
      approval.authorization.tenantID = current.tenantID →
      approval.authorization.decision = authorization.decision → approval.consumed = none →
      checked ∈ readings → checked < approval.authorization.expiresAt →
      used ∈ db.authorizations → used.key =
        (row.record.tenantID, row.record.sagaID, authorization.authorizationID) →
      used.consumed = none →
      Effect db readings (.resolveUnknownSaga current owner authorization update) (db.applyAll stamp
        (resolveWrites row.record
          (recordWithUpdate row.record (resolutionStage authorization.decision)
            (resolutionUpdate authorization update) now)
          owner (resolutionUpdate authorization update).reason authorization.authorizationID
          consumed))

variable {db : Database} {session : Session} {call : StoreCall} {readings : List Time}

section
variable (wellFormed : WellFormed db) (left : first ∈ db.sagas) (right : second ∈ db.sagas)
include wellFormed left right

theorem row_of_sagaKey (same : first.sagaKey = second.sagaKey) : first = second :=
  List.inj_on_of_nodup_map wellFormed.sagaKey left right same

theorem row_of_key (same : first.key = second.key) : first = second :=
  List.inj_on_of_nodup_map wellFormed.key left right same

end

/-- The commit of a covered transaction is the effect of its call. -/
theorem effect_of_ready (wellFormed : WellFormed db) (covers : Covers db session)
    (ready : Ready call session.view readings) (writes : session.view.writes ≠ []) :
    Effect db readings call (session.visible db) := by
  unfold Session.visible
  obtain ⟨stamp, view, locks, authorizationLocks, failed⟩ := session
  cases ready with
  | reading _ _ _ unwritten => exact absurd unwritten writes
  | reserving intent digest now _ _ written =>
    rw [written]
    exact .reserved intent digest now stamp
  | advancing _ current locked next update now _ _ asked allowed read matched written =>
    rw [written]
    obtain ⟨row, held, rfl⟩ := covers.reads locked read
    exact .advanced call current next update row now stamp asked allowed (covers.locks row held)
      matched
  | claiming tenantID owner limit lease now keys _ _ written =>
    have rows : ∀ key ∈ keys, ∃ row ∈ db.sagas,
        row.key = (tenantID, key) ∧ row.record.stage = .unknown := by
      intro key named
      obtain ⟨row, held, keyed⟩ := covers.claims tenantID keys owner (now + lease)
        (by rw [written]; exact List.mem_singleton.mpr rfl) key named
      exact ⟨row, covers.locks row held, keyed⟩
    rw [written]
    exact .claimed tenantID owner limit lease now keys stamp rows
  | resolving current locked owner authorization update now consumed _ _ named resolvable written =>
    obtain ⟨leasedUntil, leasedAt, leaseRead, unexpired, leased⟩ := resolvable.leased
    obtain ⟨checked, checkRead, approved⟩ := resolvable.approved
    obtain ⟨row, held, rfl⟩ := covers.reads locked resolvable.read
    obtain ⟨other, otherHeld, sameSaga, isOwner, isLeased⟩ := covers.leases _ _ _ leased
    obtain ⟨approval, approvalHeld, approvalKey, bound, decision, -, unconsumed, valid⟩ :=
      covers.approvals authorization checked approved
    obtain ⟨used, usedHeld, usedKey, unused⟩ := covers.consumes consumed owner row.record.tenantID
      row.record.sagaID authorization.authorizationID
      (by rw [written]; simp [resolveWrites])
    obtain rfl := row_of_sagaKey wellFormed (covers.locks other otherHeld) (covers.locks row held)
      sameSaga
    rw [written]
    exact .resolved current owner authorization update other approval used leasedUntil leasedAt
      checked now consumed stamp (covers.locks other held)
      (Prod.ext resolvable.tenantID resolvable.idempotencyKey) resolvable.sagaID resolvable.version
      resolvable.unknown named isOwner isLeased leaseRead unexpired
      (covers.authorizationLocks approval approvalHeld) approvalKey (bound.trans resolvable.bound)
      decision unconsumed checkRead valid (covers.authorizationLocks used usedHeld) usedKey unused

/-! ## Rows that a commit leaves alone -/

variable {row : SagaRow}

theorem atVersion_sagaKey {tenantID sagaID : String}
    (matched : row.atVersion tenantID sagaID version stage = true) :
    row.sagaKey = (tenantID, sagaID) := by
  simp only [SagaRow.atVersion, Bool.and_eq_true, decide_eq_true_eq] at matched
  exact matched.1.1

theorem leasedUnknown_sagaKey {tenantID sagaID owner : String}
    (matched : row.leasedUnknown tenantID sagaID version owner = true) :
    row.sagaKey = (tenantID, sagaID) := by
  simp only [SagaRow.leasedUnknown, Bool.and_eq_true, decide_eq_true_eq] at matched
  exact matched.1.1.1

theorem mem_updateWhere_of_sagaKey (wellFormed : WellFormed db) (present : row ∈ db.sagas)
    (locked : held ∈ db.sagas) (different : held.key ≠ row.key)
    (only : ∀ row, condition row = true → row.sagaKey = held.sagaKey) :
    row ∈ updateWhere condition update db.sagas := by
  refine mem_updateWhere.mpr (.inr ⟨present, ?_⟩)
  cases matched : condition row with
  | false => rfl
  | true =>
    obtain rfl := row_of_sagaKey wellFormed present locked (only row matched)
    exact absurd rfl different

/-- A commit leaves the rows it has not locked. -/
theorem kept_saga (wellFormed : WellFormed db) (covers : Covers db session)
    (ready : Ready call session.view readings) (present : row ∈ db.sagas)
    (free : ∀ held ∈ session.locks, held.key ≠ row.key) : row ∈ (session.visible db).sagas := by
  unfold Session.visible
  obtain ⟨stamp, view, locks, authorizationLocks, failed⟩ := session
  cases ready with
  | reading _ _ _ unwritten =>
    rw [unwritten]
    exact present
  | reserving intent digest now _ _ written =>
    rw [written]
    exact List.mem_append_left _ present
  | advancing _ current locked next update now _ _ asked allowed read matched written =>
    obtain ⟨held, isHeld, rfl⟩ := covers.reads locked read
    rw [written]
    refine mem_updateWhere_of_sagaKey wellFormed present (covers.locks held isHeld)
      (free held isHeld) fun row updated => ?_
    rw [atVersion_sagaKey updated]
    exact Prod.ext matched.tenantID.symm matched.sagaID.symm
  | claiming tenantID owner limit lease now keys _ _ written =>
    have claims := covers.claims tenantID keys owner (now + lease)
      (by rw [written]; exact List.mem_singleton.mpr rfl)
    rw [written]
    refine mem_updateWhere.mpr (.inr ⟨present, Bool.eq_false_iff.mpr fun claimed => ?_⟩)
    simp only [Bool.and_eq_true, decide_eq_true_eq, List.contains_iff_mem] at claimed
    obtain ⟨held, isHeld, keyed, -⟩ := claims _ claimed.2
    refine free held isHeld (keyed.trans ?_)
    rw [← claimed.1]
    rfl
  | resolving current locked owner authorization update now consumed _ _ named resolvable written =>
    obtain ⟨held, isHeld, rfl⟩ := covers.reads locked resolvable.read
    rw [written]
    refine mem_updateWhere_of_sagaKey wellFormed present (covers.locks held isHeld)
      (free held isHeld) fun row updated => ?_
    rw [leasedUnknown_sagaKey updated]
    rfl

theorem kept_authorization (covers : Covers db session) (ready : Ready call session.view readings)
    {row : AuthorizationRow} (present : row ∈ db.authorizations)
    (free : ∀ held ∈ session.authorizationLocks, held.key ≠ row.key) :
    row ∈ (session.visible db).authorizations := by
  unfold Session.visible
  obtain ⟨stamp, view, locks, authorizationLocks, failed⟩ := session
  cases ready with
  | reading _ _ _ unwritten =>
    rw [unwritten]
    exact present
  | reserving intent digest now _ _ written
  | advancing _ current locked next update now _ _ asked allowed read matched written
  | claiming tenantID owner limit lease now keys _ _ written =>
    rw [written]
    exact present
  | resolving current locked owner authorization update now consumed _ _ named resolvable written =>
    obtain ⟨held, isHeld, keyed, -⟩ := covers.consumes consumed owner locked.tenantID locked.sagaID
      authorization.authorizationID (by rw [written]; simp [resolveWrites])
    rw [written]
    refine mem_updateWhere.mpr (.inr ⟨present, Bool.eq_false_iff.mpr fun consumed => ?_⟩)
    simp only [Bool.and_eq_true, decide_eq_true_eq] at consumed
    exact free held isHeld (keyed.trans consumed.1.symm)

/-! ## The invariant of the system -/

/-- No transaction holds a row that another one holds. -/
def Disjoint (mine other : Session) : Prop :=
  (∀ row ∈ mine.locks, ∀ held ∈ other.locks, held.key ≠ row.key) ∧
    ∀ row ∈ mine.authorizationLocks, ∀ held ∈ other.authorizationLocks, held.key ≠ row.key

theorem Disjoint.symm (disjoint : Disjoint mine other) : Disjoint other mine :=
  ⟨fun row held taken present => (disjoint.1 taken present row held).symm,
    fun row held taken present => (disjoint.2 taken present row held).symm⟩

/-- Every open transaction belongs to a thread, knows what that thread has seen,
and holds the rows it has read. -/
structure Guarded (config : StoreConfig) : Prop where
  wellFormed : WellFormed config.shared.db
  relied : ∀ thread ∈ config.threads, ∀ event ∈ thread.past, sqlRely event
  seen : ∀ i session, config.shared.session i = some session → ∃ thread,
    config.threads[i]? = some thread ∧ session.view = (thread.past.foldl Seen.observe {}).view
  covers : ∀ i session, config.shared.session i = some session → Covers config.shared.db session
  exclusive : ∀ i j mine other, config.shared.session i = some mine →
    config.shared.session j = some other → j ≠ i → Disjoint mine other

theorem relied_iff :
    Relied (storeContract call) seen trace ↔ ∀ event ∈ trace, sqlRely event := by
  induction trace generalizing seen with
  | nil => simp [Relied]
  | cons event trace ih =>
    rw [List.forall_mem_cons, ← ih]
    rfl

variable {config : StoreConfig}

theorem guar_of_thread (reached : postgres.Reaches emptyStore config)
    (present : (⟨label, past, .call request next⟩ : Thread sql StoreCall (Event store)) ∈
      config.threads) (relied : ∀ event ∈ past, sqlRely event) :
    sqlGuar label (past.foldl Seen.observe {}) request := by
  obtain ⟨shared, program, spawned, ran⟩ := reached.run_of_thread rfl present
  obtain rfl : session label = program := Option.some.inj spawned
  have meets : Meets (storeContract label) (fun _ _ => True) {} (session label) :=
    (serve_meets label).bind fun _ _ _ => trivial
  obtain ⟨-, rest⟩ := meets.run ran (relied_iff.mpr relied)
  exact rest.1

/-- What a thread has read from its clock since its last transaction began. -/
def readingsOf (threads : List (Thread sql StoreCall (Event store))) (i : Nat) : List Time :=
  (threads[i]?.elim {} fun thread => thread.past.foldl Seen.observe {}).readings

inductive Stepped (threads : List (Thread sql StoreCall (Event store))) (s after : StoreState) : Prop
  | quiet : after.db = s.db → after.accepted = s.accepted → Stepped threads s after
  | committed (caller : Nat) (call : StoreCall) :
      Effect s.db (readingsOf threads caller) call after.db → WellFormed after.db →
      after.accepted = s.accepted ++ [(caller, call)] → Stepped threads s after
  | issued (row : AuthorizationRow) : row.consumed = none →
      after.db = { s.db with authorizations := s.db.authorizations ++ [row] } →
      WellFormed after.db → after.accepted = s.accepted → Stepped threads s after

theorem view_after_error {view : View}
    (running : statement ≠ .commit) : view.after statement (.error err) = view := by
  cases statement with
  | commit => exact absurd rfl running
  | _ => rfl

theorem sqlRely_error :
    sqlRely ⟨.run statement, .error err⟩ := by
  cases statement <;> trivial

section
variable {s after : StoreState} {threads : List (Thread sql StoreCall (Event store))} {i : Nat}
  {label : StoreCall} {past : List (Event sql)} {request : SqlCall}
  {next : request.Answer → Sql (Event store)} {answer : request.Answer}

abbrev answeredThreads (threads : List (Thread sql StoreCall (Event store))) (i : Nat)
    (label : StoreCall) (past : List (Event sql)) (request : SqlCall)
    (next : request.Answer → Sql (Event store)) (answer : request.Answer) :
    List (Thread sql StoreCall (Event store)) :=
  threads.set i ⟨label, past ++ [⟨request, answer⟩], next answer⟩

section
variable (guarded : Guarded ⟨s, threads⟩)
include guarded

theorem Guarded.relied_answered (present : threads[i]? = some ⟨label, past, .call request next⟩)
    (rely : sqlRely ⟨request, answer⟩) :
    ∀ thread ∈ answeredThreads threads i label past request next answer,
      ∀ event ∈ thread.past, sqlRely event := by
  intro thread there
  rcases List.mem_or_eq_of_mem_set there with old | rfl
  · exact guarded.relied thread old
  · exact List.forall_mem_append.mpr
      ⟨guarded.relied _ (List.mem_of_getElem? present), by simpa using rely⟩

theorem Guarded.seen_other (open_ : s.session j = some other) (different : j ≠ i) : ∃ thread,
      (answeredThreads threads i label past request next answer)[j]? = some thread ∧
        other.view = (thread.past.foldl Seen.observe {}).view := by
  obtain ⟨thread, there, view⟩ := guarded.seen j other open_
  exact ⟨thread, by rw [List.getElem?_set_ne different.symm]; exact there, view⟩

section
variable (present : threads[i]? = some ⟨label, past, .call request next⟩)
include present

theorem Guarded.seen_own (open_ : s.session i = some mine) (answer : request.Answer) : ∃ thread,
      (answeredThreads threads i label past request next answer)[i]? = some thread ∧
        mine.view.observe ⟨request, answer⟩ = (thread.past.foldl Seen.observe {}).view := by
  obtain ⟨thread, there, view⟩ := guarded.seen i mine open_
  obtain rfl := Option.some.inj (present.symm.trans there)
  obtain ⟨bound, -⟩ := List.getElem?_eq_some_iff.mp present
  refine ⟨_, List.getElem?_set_self bound, ?_⟩
  rw [List.foldl_append, view]
  rfl

section
variable (rely : sqlRely ⟨request, answer⟩)
include rely

/-- Ending a transaction keeps the invariant when the locked rows of the others stay. -/
theorem Guarded.close (wellFormed : WellFormed db)
    (kept : ∀ j other, s.session j = some other → j ≠ i → Covers db other) :
    Guarded ⟨{ s.close i with db := db, accepted := accepted },
      answeredThreads threads i label past request next answer⟩ where
  wellFormed := wellFormed
  relied := guarded.relied_answered present rely
  seen j other open_ := by
    obtain ⟨different, open_⟩ := Sessions.get_of_get_close open_
    exact guarded.seen_other open_ different
  covers j other open_ := by
    obtain ⟨different, open_⟩ := Sessions.get_of_get_close open_
    exact kept j other open_ different
  exclusive j k mine other first second different :=
    guarded.exclusive j k mine other (Sessions.get_of_get_close first).2 (Sessions.get_of_get_close second).2 different

theorem Guarded.put (seen : ∃ thread,
      (answeredThreads threads i label past request next answer)[i]? = some thread ∧
        mine.view = (thread.past.foldl Seen.observe {}).view) (covers : Covers s.db mine)
    (apart : ∀ j other, s.session j = some other → j ≠ i → Disjoint mine other) :
    Guarded ⟨s.put i mine, answeredThreads threads i label past request next answer⟩ where
  wellFormed := guarded.wellFormed
  relied := guarded.relied_answered present rely
  seen j other open_ := by
    rcases Sessions.get_put_cases open_ with ⟨rfl, rfl⟩ | ⟨different, open_⟩
    · exact seen
    · exact guarded.seen_other open_ different
  covers j other open_ := by
    rcases Sessions.get_put_cases open_ with ⟨rfl, rfl⟩ | ⟨different, open_⟩
    · exact covers
    · exact guarded.covers j other open_
  exclusive j k first second left right different := by
    rcases Sessions.get_put_cases left with ⟨rfl, rfl⟩ | ⟨leftOther, leftOpen⟩
    · rcases Sessions.get_put_cases right with ⟨rfl, rfl⟩ | ⟨-, rightOpen⟩
      · exact absurd rfl different
      · exact apart k second rightOpen different
    rcases Sessions.get_put_cases right with ⟨rfl, rfl⟩ | ⟨-, rightOpen⟩
    · exact (apart j first leftOpen leftOther).symm
    · exact guarded.exclusive j k first second leftOpen rightOpen different

theorem Guarded.stay (silent : ∀ view : View, view.observe ⟨request, answer⟩ = view) :
    Guarded ⟨s, answeredThreads threads i label past request next answer⟩ where
  wellFormed := guarded.wellFormed
  relied := guarded.relied_answered present rely
  seen j other open_ := by
    by_cases same : j = i
    · subst same
      obtain ⟨thread, there, view⟩ := guarded.seen_own present open_ answer
      exact ⟨thread, there, (silent other.view).symm.trans view⟩
    · exact guarded.seen_other open_ same
  covers := guarded.covers
  exclusive := guarded.exclusive

end

/-- A call that keeps the contract of its method keeps the invariant, and changes
the committed tables only by the effect of its commit. -/
theorem Guarded.exec (allowed : sqlGuar label (past.foldl Seen.observe {}) request)
    (executed : Executed s i label request answer after) :
    Guarded ⟨after, answeredThreads threads i label past request next answer⟩ ∧
      Stepped threads s after := by
  -- The thread's own view decides whether its call was allowed.
  have viewed : ∀ {mine : Session}, s.session i = some mine →
      mine.view = (past.foldl Seen.observe {}).view := by
    intro mine found
    obtain ⟨thread, there, view⟩ := guarded.seen i mine found
    obtain rfl := Option.some.inj (present.symm.trans there)
    exact view
  have others : ∀ j other, s.session j = some other → j ≠ i → Covers s.db other :=
    fun j other open_ _ => guarded.covers j other open_
  cases executed with
  | read time => exact ⟨guarded.stay present trivial fun _ => rfl, .quiet rfl rfl⟩
  | rolledBack | refused =>
    exact ⟨guarded.close present trivial guarded.wellFormed others, .quiet rfl rfl⟩
  | begun tenantID stamp =>
    refine ⟨guarded.put present trivial ?_ ?_ ?_, .quiet rfl rfl⟩
    · obtain ⟨bound, -⟩ := List.getElem?_eq_some_iff.mp present
      refine ⟨_, List.getElem?_set_self bound, ?_⟩
      rw [List.foldl_append]
      rfl
    · exact ⟨by simp, by simp, by simp, by simp, by simp, by simp, by simp⟩
    · exact fun _ _ _ _ => ⟨by simp, by simp⟩
  | committed mine answer found running wellFormed answered =>
    have open_ := found
    have covers := guarded.covers i mine open_
    have ready : Ready label mine.view (readingsOf threads i) := by
      rw [viewed found, readingsOf, present]
      exact allowed
    refine ⟨guarded.close present trivial wellFormed fun j other there different => ?_, ?_⟩
    · have apart := guarded.exclusive j i other mine there open_ different.symm
      exact (guarded.covers j other there).transfer
        (fun row held => kept_saga guarded.wellFormed covers ready
          ((guarded.covers j other there).locks row held) (apart.1 row held))
        (fun row held => kept_authorization covers ready
          ((guarded.covers j other there).authorizationLocks row held) (apart.2 row held))
    by_cases writes : mine.view.writes = []
    · exact .quiet (visible_of_unwritten writes) (if_pos writes)
    · exact .committed i label (effect_of_ready guarded.wellFormed covers ready writes) wellFormed
        (if_neg writes)
  | failed statement text mine running found =>
    have open_ := found
    refine ⟨guarded.put present sqlRely_error ?_ (guarded.covers i mine open_).fail ?_,
      .quiet rfl rfl⟩
    · obtain ⟨thread, there, view⟩ :=
        guarded.seen_own present open_ (Except.error (.database text))
      exact ⟨thread, there, (view_after_error running).symm.trans view⟩
    · exact fun j other there different => guarded.exclusive i j mine other open_ there different
  | failedOutside statement text running outside =>
    exact ⟨guarded.stay present sqlRely_error fun _ => view_after_error running, .quiet rfl rfl⟩
  | queried statement choice mine answer rows authorizations found running queried =>
    have open_ := found
    have covers := guarded.covers i mine open_
    have permitted : sqlGuar label { past.foldl Seen.observe {} with view := mine.view }
        (.run statement) := by
      rw [viewed found]
      exact allowed
    have spec := queried_of_query permitted queried
    refine ⟨guarded.put present spec.rely (guarded.seen_own present open_ answer)
      (covers.grow (fun row held => (spec.sagas row held).1)
        (fun row held => (spec.approvals row held).1) spec.grows) ?_, .quiet rfl rfl⟩
    intro j other there different
    have apart := guarded.exclusive i j mine other open_ there different
    exact ⟨List.forall_mem_append.mpr ⟨apart.1, fun row taken held locked =>
        key_ne_of_free (spec.sagas row taken).2 there different locked⟩,
      List.forall_mem_append.mpr ⟨apart.2, fun row taken held locked =>
        key_ne_of_free (spec.approvals row taken).2 there different locked⟩⟩

end

end

end

theorem wellFormed_empty : WellFormed {} := by decide

section
variable (reached : postgres.Reaches emptyStore config)
include reached

/-- One step keeps the locks and changes the tables by one effect. -/
theorem guarded_step (guarded : Guarded config) (taken : postgres.next config action = some later) :
    Guarded later ∧ Stepped config.threads config.shared later.shared := by
  rcases Machine.next_cases taken with ⟨label, program, -, rfl⟩ |
    ⟨i, label, past, request, next, choice, answer, shared, present, done, rfl⟩ |
    ⟨event, shared, happened, rfl⟩
  · refine ⟨⟨guarded.wellFormed, ?_, ?_, guarded.covers, guarded.exclusive⟩, .quiet rfl rfl⟩
    · intro thread there
      rcases mem_concat.mp there with old | rfl
      · exact guarded.relied thread old
      · simp
    intro i mine open_
    obtain ⟨thread, there, view⟩ := guarded.seen i mine open_
    obtain ⟨bound, -⟩ := List.getElem?_eq_some_iff.mp there
    exact ⟨thread, by rw [List.getElem?_append_left bound, there], view⟩
  · have there := List.mem_of_getElem? present
    exact guarded.exec present (guar_of_thread reached there (guarded.relied _ there))
      (executed_of_exec done)
  cases event with
  | lost thread =>
    cases happened
    refine ⟨⟨guarded.wellFormed, guarded.relied, ?_, ?_, ?_⟩, .quiet rfl rfl⟩
    · exact fun i mine open_ => guarded.seen i mine (Sessions.get_of_get_close open_).2
    · exact fun i mine open_ => guarded.covers i mine (Sessions.get_of_get_close open_).2
    · exact fun i j mine other first second => guarded.exclusive i j mine other
        (Sessions.get_of_get_close first).2 (Sessions.get_of_get_close second).2
  | issued row =>
    simp only [postgres, happens] at happened
    split_ifs at happened with valid
    cases happened
    refine ⟨⟨valid.2, guarded.relied, guarded.seen, ?_, guarded.exclusive⟩,
      .issued row valid.1 rfl valid.2 rfl⟩
    exact fun i mine open_ => (guarded.covers i mine open_).transfer
      (guarded.covers i mine open_).locks
      fun row held => List.mem_append_left _ ((guarded.covers i mine open_).authorizationLocks row held)

theorem guarded_of_reaches : Guarded config := by
  induction reached with
  | refl =>
    exact ⟨wellFormed_empty, by simp [emptyStore], nofun, nofun, nofun⟩
  | tail action reached taken ih => exact (guarded_step reached ih taken).1

/-- Every step of the running system is quiet, an issued authorization, or the
effect of one committed call on the rows as they are. -/
theorem stepped_of_reaches (taken : postgres.next config action = some later) :
    Stepped config.threads config.shared later.shared :=
  (guarded_step reached (guarded_of_reaches reached) taken).2

end

end UmojaFlowOS.Settlement.PostgresSagaStore
