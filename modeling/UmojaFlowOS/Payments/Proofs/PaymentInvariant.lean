import UmojaFlowOS.Payments.Proofs.PaymentSteps

/-!
# What open transactions hold

A transaction has the rows it read under a lock as they are committed, and what it is about
to insert is new, until it ends: what it holds no other transaction holds, and nothing else
is changed by the others.
-/

namespace UmojaFlowOS.Payments

open Interaction Relational PaymentStore

/-! ## Writes leave the other rows -/

section
variable {t : PaymentTables} {write : PaymentWrite} {writes : List PaymentWrite}

/-- What every write of a list keeps, the list keeps. -/
theorem applyAll_keeps (property : PaymentTables → Prop)
    (step : ∀ t, ∀ write ∈ writes, property t → property (write.apply t)) (start : property t) :
    property (t.applyAll writes) := by
  induction writes generalizing t with
  | nil => exact start
  | cons write writes ih =>
    exact ih (fun t other member => step t other (by simp [member]))
      (step t write (by simp) start)

theorem applyAll_events (t : PaymentTables) (events : List ActivityEvent) :
    t.applyAll (events.map .event) = { t with events := t.events ++ events } := by
  induction events generalizing t with
  | nil => simp [PaymentTables.applyAll]
  | cons event events ih =>
    show (PaymentWrite.apply t (.event event)).applyAll (events.map .event) = _
    rw [ih]
    simp [PaymentWrite.apply]

theorem mem_locks_apply (present : row ∈ t.locks)
    (free : .lock row.id ∉ write.keys) : row ∈ (write.apply t).locks := by
  cases write with
  | insertLock lock => exact List.mem_append_left _ present
  | lockStatus | bind =>
    refine mem_updateWhere.mpr (.inr ⟨present, ?_⟩)
    simpa [PaymentWrite.keys] using free
  | _ => exact present

theorem mem_orders_apply (present : row ∈ t.orders)
    (free : .order row.id ∉ write.keys) : row ∈ (write.apply t).orders := by
  cases write with
  | insertOrder order => exact List.mem_append_left _ present
  | orderStatus id status =>
    refine mem_updateWhere.mpr (.inr ⟨present, ?_⟩)
    simpa [PaymentWrite.keys] using free
  | _ => exact present

theorem mem_legs_apply (present : row ∈ t.legs)
    (free : .leg row.id ∉ write.keys) : row ∈ (write.apply t).legs := by
  cases write with
  | insertLeg leg => exact List.mem_append_left _ present
  | legStatus id status =>
    refine mem_updateWhere.mpr (.inr ⟨present, ?_⟩)
    simpa [PaymentWrite.keys] using free
  | _ => exact present

theorem lock_of_apply (present : row ∈ (write.apply t).locks) :
    (∃ old ∈ t.locks, old.id = row.id) ∨ write = .insertLock row := by
  cases write with
  | insertLock lock =>
    rcases mem_concat.mp present with old | rfl
    · exact .inl ⟨row, old, rfl⟩
    · exact .inr rfl
  | lockStatus | bind =>
    rcases mem_updateWhere.mp present with ⟨old, there, -, rfl⟩ | ⟨there, -⟩
    · exact .inl ⟨old, there, rfl⟩
    · exact .inl ⟨row, there, rfl⟩
  | _ => exact .inl ⟨row, present, rfl⟩

theorem order_of_apply (present : row ∈ (write.apply t).orders) :
    (∃ old ∈ t.orders, old.id = row.id ∧ old.idempotencyKey = row.idempotencyKey) ∨
      write = .insertOrder row := by
  cases write with
  | insertOrder order =>
    rcases mem_concat.mp present with old | rfl
    · exact .inl ⟨row, old, rfl, rfl⟩
    · exact .inr rfl
  | orderStatus id status =>
    rcases mem_updateWhere.mp present with ⟨old, there, -, rfl⟩ | ⟨there, -⟩
    · exact .inl ⟨old, there, rfl, rfl⟩
    · exact .inl ⟨row, there, rfl, rfl⟩
  | _ => exact .inl ⟨row, present, rfl, rfl⟩

theorem leg_of_apply (present : row ∈ (write.apply t).legs) :
    (∃ old ∈ t.legs, old.id = row.id) ∨ write = .insertLeg row := by
  cases write with
  | insertLeg leg =>
    rcases mem_concat.mp present with old | rfl
    · exact .inl ⟨row, old, rfl⟩
    · exact .inr rfl
  | legStatus id status =>
    rcases mem_updateWhere.mp present with ⟨old, there, -, rfl⟩ | ⟨there, -⟩
    · exact .inl ⟨old, there, rfl⟩
    · exact .inl ⟨row, there, rfl⟩
  | _ => exact .inl ⟨row, present, rfl⟩

end

/-! ## What a transaction has read and is about to write -/

/-- An inserted row has identifiers of its own. -/
def PaymentWrite.Fresh (t : PaymentTables) : PaymentWrite → Prop
  | insertLock lock => 0 < lock.lockedRate.unscaled ∧ ∀ row ∈ t.locks, row.id ≠ lock.id
  | insertOrder order => ∀ row ∈ t.orders, row.id ≠ order.id ∧ row.idempotencyKey ≠ order.idempotencyKey
  | insertLeg leg => ∀ row ∈ t.legs, row.id ≠ leg.id
  | _ => True

/-- What was read under a lock is what is committed; a leg has been read with its order of
the snapshot. -/
def PaymentRead.Current (t : PaymentTables) (reads : List PaymentRead) (snapshot : List PaymentOrder) :
    PaymentRead → Prop
  | lock row => row ∈ t.locks
  | binding id bound => ∃ row, lock row ∈ reads ∧ row.id = id ∧ row.paymentOrderID = bound
  | order row => row ∈ t.orders
  | leg row status => row ∈ t.legs ∧
      ∃ parent ∈ snapshot, parent.id = row.paymentOrderID ∧ parent.status = status

structure Covers (t : PaymentTables) (view : PaymentView) (snapshot : List PaymentOrder) : Prop where
  reads : ∀ entry ∈ view.reads, entry.Current t view.reads snapshot
  writes : ∀ write ∈ view.writes, write.Fresh t

section
variable {t : PaymentTables} {view : PaymentView} {snapshot : List PaymentOrder}

theorem covers_empty : Covers t {} snapshot where
  reads _ member := absurd member List.not_mem_nil
  writes _ member := absurd member List.not_mem_nil

theorem PaymentRead.Current.apply {entry : PaymentRead} {write : PaymentWrite}
    (current : entry.Current t reads snapshot) (free : ∀ key ∈ entry.keys, key ∉ write.keys) :
    entry.Current (write.apply t) reads snapshot := by
  cases entry with
  | lock row => exact mem_locks_apply current (free _ (List.mem_singleton_self _))
  | binding id order => exact current
  | order row => exact mem_orders_apply current (free _ (List.mem_singleton_self _))
  | leg row status => exact ⟨mem_legs_apply current.1 (free _ (List.mem_singleton_self _)), current.2⟩

theorem PaymentWrite.Fresh.apply {mine write : PaymentWrite} (fresh : mine.Fresh t)
    (free : ∀ key ∈ mine.keys, key ∉ write.keys) : mine.Fresh (write.apply t) := by
  cases mine with
  | insertLock lock =>
    refine ⟨fresh.1, fun row present same => ?_⟩
    rcases lock_of_apply present with ⟨old, there, equal⟩ | rfl
    · exact fresh.2 old there (equal.trans same)
    · exact free (.lock lock.id) (List.mem_singleton_self _) (by simp [PaymentWrite.keys, same])
  | insertOrder order =>
    intro row present
    rcases order_of_apply present with ⟨old, there, id, key⟩ | rfl
    · rw [← id, ← key]
      exact fresh old there
    have other := free (.order order.id) (by simp [PaymentWrite.keys])
    have unused := free (.idempotencyKey order.idempotencyKey) (by simp [PaymentWrite.keys])
    simp only [PaymentWrite.keys, List.mem_cons, RowKey.order.injEq, RowKey.idempotencyKey.injEq,
      reduceCtorEq, List.not_mem_nil, or_false, false_or] at other unused
    exact ⟨fun same => other same.symm, fun same => unused same.symm⟩
  | insertLeg leg =>
    intro row present same
    rcases leg_of_apply present with ⟨old, there, equal⟩ | rfl
    · exact fresh old there (equal.trans same)
    · exact free (.leg leg.id) (by simp [PaymentWrite.keys]) (by simp [PaymentWrite.keys, same])
  | _ => trivial

/-- What a transaction holds is not changed by writes to other rows. -/
theorem Covers.applyAll {writes : List PaymentWrite} (covers : Covers t view snapshot)
    (free : ∀ key ∈ view.keys, ∀ write ∈ writes, key ∉ write.keys) :
    Covers (t.applyAll writes) view snapshot := by
  refine applyAll_keeps (fun t => Covers t view snapshot) (fun t write member covers => ⟨?_, ?_⟩) covers
  · intro entry present
    refine (covers.reads entry present).apply fun key held => free key ?_ write member
    exact List.mem_append_left _ (List.mem_flatMap.mpr ⟨entry, present, held⟩)
  intro mine present
  refine (covers.writes mine present).apply fun key held => free key ?_ write member
  exact List.mem_append_right _ (List.mem_flatMap.mpr ⟨mine, present, held⟩)

theorem PaymentRead.Current.mono {entry : PaymentRead} (current : entry.Current t reads snapshot)
    (subset : reads ⊆ more) : entry.Current t more snapshot := by
  cases entry with
  | binding id bound =>
    obtain ⟨row, read, facts⟩ := current
    exact ⟨row, subset read, facts⟩
  | _ => exact current

theorem Covers.read (covers : Covers t view snapshot) (entry : PaymentRead)
    (current : entry.Current t view.reads snapshot) : Covers t (view.read entry) snapshot := by
  refine ⟨fun other member => ?_, covers.writes⟩
  have subset : view.reads ⊆ (view.read entry).reads := List.subset_append_left _ _
  rcases mem_concat.mp member with old | rfl
  · exact (covers.reads other old).mono subset
  · exact current.mono subset

theorem Covers.write (covers : Covers t view snapshot) (change : PaymentWrite)
    (fresh : change.Fresh t) : Covers t (view.write change) snapshot := by
  refine ⟨covers.reads, fun other member => ?_⟩
  rcases mem_concat.mp member with old | rfl
  · exact covers.writes other old
  · exact fresh

end

/-! ## One statement -/

section
variable {t : PaymentTables} {session : PaymentSession} {seen : PaymentSeen} {statement : Statement}
  {rows : statement.Rows}

theorem applyAll_of_unwritten (unwritten : writes = []) : t.applyAll writes = t := by
  rw [unwritten]
  rfl

/-- A statement that the contract permits leaves a transaction with current rows. -/
theorem covers_of_answered (unique : (t.locks.map (·.id)).Nodup)
    (covers : Covers t session.view session.snapshot) (same : session.view = seen.view)
    (permitted : seen.permits job (.run statement))
    (answered : Answered session (t.applyAll session.view.writes) statement rows) :
    Covers t (session.advance (t.applyAll session.view.writes) statement rows).view
      (session.advance (t.applyAll session.view.writes) statement rows).snapshot := by
  have committed (unwritten : seen.view.writes = []) : t.applyAll session.view.writes = t :=
    applyAll_of_unwritten (by rw [same, unwritten])
  cases answered
  case insertedLock new id fresh positive =>
    rw [committed permitted] at fresh
    exact covers.write (.insertLock (new.row id)) ⟨positive, fresh⟩
  case lock id =>
    rw [committed permitted]
    cases found : t.locks.find? fun row => row.id = id with
    | none => exact covers
    | some row => exact covers.read (.lock row) (find?_id found).1
  case binding id =>
    obtain ⟨unwritten, row, read, own⟩ := permitted
    rw [← same] at read
    subst own
    rw [committed unwritten]
    refine covers.read (.binding row.id _) ⟨row, read, rfl, ?_⟩
    rw [find?_of_unique unique (covers.reads _ read)]
    rfl
  case cancelledLock id =>
    cases found : (t.applyAll session.view.writes).locks.find? fun row => row.id = id with
    | none => exact covers
    | some row => exact covers.write (.lockStatus [id] .cancelled) trivial
  case expired given rows matched =>
    exact covers.write (.lockStatus (rows.map (·.id)) .expired) trivial
  case insertedOrder new id fresh unused positive =>
    rw [committed permitted] at fresh unused
    exact covers.write (.insertOrder (new.row id)) fun row present => ⟨fresh row present, unused row present⟩
  case bound order lock count =>
    cases count with
    | zero => exact covers
    | succ count => exact covers.write (.bind lock order) trivial
  case order id =>
    rw [committed permitted]
    cases found : t.orders.find? fun row => row.id = id with
    | none => exact covers
    | some row => exact covers.read (.order row) (find?_id found).1
  case insertedLeg new id fresh =>
    rw [committed permitted] at fresh
    exact covers.write (.insertLeg (new.row id)) fresh
  case updatedOrder status id =>
    cases found : (t.applyAll session.view.writes).orders.find? fun row => row.id = id with
    | none => exact covers
    | some row =>
      show Covers t ((PaymentStatus.ofText status).elim session.view _) _
      cases PaymentStatus.ofText status with
      | none => exact covers
      | some status => exact covers.write (.orderStatus id status) trivial
  case started id =>
    show Covers t session.view _
    rw [same, permitted]
    exact covers_empty
  case leg id =>
    rw [committed permitted]
    cases found : t.legs.find? fun row => row.id = id with
    | none => exact covers
    | some row =>
      rw [Option.bind_some]
      cases parent : session.snapshot.find? fun order => order.id = row.paymentOrderID with
      | none => exact covers
      | some order =>
        exact covers.read (.leg row order.status)
          ⟨(find?_id found).1, order, (find?_id parent).1, (find?_id parent).2, rfl⟩
  case updatedLeg status id =>
    cases found : (t.applyAll session.view.writes).legs.find? fun row => row.id = id with
    | none => exact covers
    | some row =>
      show Covers t ((PaymentStatus.ofText status).elim session.view _) _
      cases PaymentStatus.ofText status with
      | none => exact covers
      | some status => exact covers.write (.legStatus id status) trivial
  case event event => exact covers.write (.event event) trivial
  all_goals exact covers

end

/-! ## One call -/

section
variable {s after : PaymentStore} {i : Nat} {session : PaymentSession} {call : PaymentCall}
  {answer : call.Answer}

theorem get_of_effect (effect : PaymentEffect s i call answer after) (other : j ≠ i) :
    after.sessions.get j = s.sessions.get j := by
  cases effect with
  | read | drawn => rfl
  | rolledBack | committed | refused => exact Sessions.get_close_of_ne other
  | begun | answered => exact Sessions.get_put_of_ne other
  | failed => exact Sessions.get_spoil_of_ne other

theorem live_of_effect (effect : PaymentEffect s i call answer after) (other : j ≠ i) :
    after.live j = s.live j :=
  Sessions.live_congr (get_of_effect effect other)

theorem holds_unread : PaymentSession.holds key ⟨{}, snapshot, failed⟩ = false := rfl

theorem separate_of_effect (separate : Sessions.Apart PaymentSession.holds s.sessions)
    (effect : PaymentEffect s i call answer after) :
    Sessions.Apart PaymentSession.holds after.sessions := by
  cases effect with
  | read | drawn => exact separate
  | rolledBack | committed | refused => exact separate.close i
  | begun => exact separate.put fun _ _ _ _ _ held => absurd held (by simp [holds_unread])
  | failed => exact separate.spoil i fun _ _ held => absurd held (by simp [holds_unread])
  | answered statement choice session rows open_ answered free =>
    refine separate.put fun j other listed different key held => ?_
    have waits := List.any_eq_false.mp free key (by simpa [PaymentSession.holds] using held)
    exact Sessions.elsewhere_eq_false.mp (by simpa using waits) j other listed different

theorem tables_of_effect (effect : PaymentEffect s i call answer after) :
    after.tables = s.tables ∨ ∃ session, s.live i = some session ∧ call = .run .commit ∧
      after.tables = s.tables.applyAll session.view.writes ∧ after.live i = none := by
  cases effect with
  | committed session answer open_ =>
    refine .inr ⟨session, open_, rfl, rfl, ?_⟩
    rw [live, commit, Sessions.live, Sessions.get_close_self]
    rfl
  | _ => exact .inl rfl

/-- How the caller comes to an open transaction. -/
inductive Continued (s : PaymentStore) (i : Nat) :
    (call : PaymentCall) → call.Answer → PaymentSession → Prop
  | kept {call : PaymentCall} {answer : call.Answer} {session : PaymentSession} :
      s.live i = some session → (∀ view : PaymentView, view.after ⟨call, answer⟩ = view) →
      Continued s i call answer session
  | begun : Continued s i (.run .begin) (.ok ()) {}
  | answered {statement : Statement} {rows : statement.Rows} {session : PaymentSession} :
      s.live i = some session →
      Answered session (s.tables.applyAll session.view.writes) statement rows →
      Continued s i (.run statement) (.ok rows)
        (session.advance (s.tables.applyAll session.view.writes) statement rows)

theorem continued_of_effect (effect : PaymentEffect s i call answer after)
    (open_ : after.live i = some session) : Continued s i call answer session := by
  have gone {sessions : Sessions PaymentSession} (closed : sessions.get i = none)
      (open_ : sessions.live (·.failed) i = some session) : False := by
    cases closed.symm.trans (Sessions.get_of_live open_)
  cases effect with
  | read | drawn => exact .kept open_ fun _ => rfl
  | rolledBack | committed | refused => exact (gone Sessions.get_close_self open_).elim
  | begun =>
    cases Sessions.get_put_self.symm.trans (Sessions.get_of_live open_)
    exact .begun
  | failed => cases (Sessions.live_spoil_self fun _ => rfl).symm.trans open_
  | answered statement choice before rows present answered free =>
    cases Sessions.get_put_self.symm.trans (Sessions.get_of_live open_)
    exact .answered present (answered_of_answer answered)

end

/-! ## Identifiers -/

structure Unique (t : PaymentTables) : Prop where
  locks : (t.locks.map (·.id)).Nodup
  orders : (t.orders.map (·.id)).Nodup
  keys : (t.orders.map (·.idempotencyKey)).Nodup
  legs : (t.legs.map (·.id)).Nodup

section
variable {t : PaymentTables} {write : PaymentWrite}

theorem Unique.apply (unique : Unique t) (fresh : write.Fresh t) : Unique (write.apply t) := by
  cases write with
  | insertLock lock => exact { unique with locks := nodup_map_concat unique.locks fresh.2 }
  | insertOrder order =>
    exact { unique with
      orders := nodup_map_concat unique.orders fun row present => (fresh row present).1
      keys := nodup_map_concat unique.keys fun row present => (fresh row present).2 }
  | insertLeg leg => exact { unique with legs := nodup_map_concat unique.legs fresh }
  | lockStatus | bind =>
    exact { unique with locks := nodup_map_updateWhere (fun _ => rfl) unique.locks }
  | orderStatus id status =>
    exact { unique with
      orders := nodup_map_updateWhere (fun _ => rfl) unique.orders
      keys := nodup_map_updateWhere (fun _ => rfl) unique.keys }
  | legStatus id status =>
    exact { unique with legs := nodup_map_updateWhere (fun _ => rfl) unique.legs }
  | event record => exact ⟨unique.locks, unique.orders, unique.keys, unique.legs⟩

/-- One row may be inserted, and whatever else is not an insertion be written after it. -/
theorem Unique.applyAll (unique : Unique t) (fresh : write.Fresh t)
    (rest : ∀ other ∈ writes, ∀ t, other.Fresh t) : Unique (t.applyAll (write :: writes)) := by
  show Unique ((write.apply t).applyAll writes)
  exact applyAll_keeps Unique (fun t other member unique => unique.apply (rest other member t))
    (unique.apply fresh)

theorem Unique.attach (unique : Unique t) (order decision : Uuid) :
    Unique (t.attach order decision) :=
  { unique with
    orders := nodup_map_updateWhere (fun _ => rfl) unique.orders
    keys := nodup_map_updateWhere (fun _ => rfl) unique.keys }

theorem writes_of_complete (complete : Complete job seen) :
    seen.view.writes = [] ∨ ∃ first rest, seen.view.writes = first :: rest ∧
      ∀ other ∈ rest, ∀ t, other.Fresh t := by
  cases complete
  case nothing written => exact .inl written
  all_goals exact .inr ⟨_, _, ‹_›, by simp [PaymentWrite.Fresh]⟩

theorem Unique.complete (unique : Unique t) (complete : Complete job seen)
    (fresh : ∀ write ∈ seen.view.writes, write.Fresh t) : Unique (t.applyAll seen.view.writes) := by
  rcases writes_of_complete complete with none_ | ⟨first, rest, written, later⟩
  · rw [none_]
    exact unique
  · rw [written] at fresh ⊢
    exact unique.applyAll (fresh first (by simp)) later

end

/-! ## Along every run -/

structure PaymentInvariant (config : PaymentConfig) : Prop where
  unique : Unique config.shared.tables
  separate : Sessions.Apart PaymentSession.holds config.shared.sessions
  owned : ∀ i session, config.shared.live i = some session → i < config.threads.length
  agrees : ∀ i thread session, config.threads[i]? = some thread →
    config.shared.live i = some session → session.view = (paymentSeenIn thread.past).view
  covers : ∀ i session, config.shared.live i = some session →
    Covers config.shared.tables session.view session.snapshot

section
variable {config : PaymentConfig}

/-- What a transaction holds is not written by another. -/
theorem PaymentInvariant.free (invariant : PaymentInvariant config)
    (first : config.shared.live i = some mine) (second : config.shared.live j = some other)
    (different : j ≠ i) :
    ∀ key ∈ other.view.keys, ∀ write ∈ mine.view.writes, key ∉ write.keys := by
  intro key held write member writes
  have both := invariant.separate j i other mine (Sessions.get_of_live second) (Sessions.get_of_live first) different key
    (by simpa [PaymentSession.holds] using held)
  have holding : key ∈ mine.view.keys :=
    List.mem_append_right _ (List.mem_flatMap.mpr ⟨write, member, writes⟩)
  simp [PaymentSession.holds, holding] at both

theorem PaymentInvariant.exec (invariant : PaymentInvariant config)
    (active : config.threads[i]? = some ⟨label, past, .call call next⟩)
    (permitted : (paymentSeenIn past).permits label call)
    (effect : PaymentEffect config.shared i call answer after) :
    PaymentInvariant ⟨after, config.threads.set i ⟨label, past ++ [⟨call, answer⟩], next answer⟩⟩ := by
  have bound : i < config.threads.length := (List.getElem?_eq_some_iff.mp active).1
  have mine (session : PaymentSession) (open_ : config.shared.live i = some session) :
      session.view = (paymentSeenIn past).view := invariant.agrees i _ session active open_
  have tables := tables_of_effect effect
  refine ⟨?_, separate_of_effect invariant.separate effect, ?_, ?_, ?_⟩
  · rcases tables with same | ⟨session, open_, rfl, same, -⟩
    · rw [same]
      exact invariant.unique
    rw [same, mine session open_]
    refine invariant.unique.complete permitted fun write member => ?_
    rw [← mine session open_] at member
    exact (invariant.covers i session open_).writes write member
  · intro j session open_
    rw [List.length_set]
    by_cases same : j = i
    · rwa [same]
    · rw [live_of_effect effect same] at open_
      exact invariant.owned j session open_
  · intro j thread session present open_
    rcases getElem?_set_cases present with ⟨rfl, rfl⟩ | ⟨other, present⟩
    · rw [paymentSeenIn_concat]
      show session.view = (paymentSeenIn past).view.after _
      cases continued_of_effect effect open_ with
      | kept before unchanged => rw [unchanged, mine session before]
      | begun => rfl
      | answered before answered => rw [← mine _ before]; rfl
    · rw [live_of_effect effect other] at open_
      exact invariant.agrees j thread session present open_
  intro j session open_
  by_cases same : j = i
  · subst same
    have kept : after.tables = config.shared.tables := by
      rcases tables with same | ⟨-, -, -, -, closed⟩
      · exact same
      · rw [closed] at open_
        cases open_
    rw [kept]
    cases continued_of_effect effect open_ with
    | kept before => exact invariant.covers j session before
    | begun => exact covers_empty
    | answered before answered =>
      exact covers_of_answered invariant.unique.locks (invariant.covers j _ before) (mine _ before)
        permitted answered
  rw [live_of_effect effect same] at open_
  have covers := invariant.covers j session open_
  rcases tables with kept | ⟨writing, written, -, kept, -⟩
  · rw [kept]
    exact covers
  · rw [kept]
    exact covers.applyAll (invariant.free written open_ same)

/-- Transactions depend on the rate locks, the orders and the legs only. -/
theorem Covers.of_rows (covers : Covers t view snapshot) (locks : later.locks = t.locks)
    (orders : later.orders = t.orders) (legs : later.legs = t.legs) :
    Covers later view snapshot := by
  refine ⟨fun entry member => ?_, fun write member => ?_⟩
  · have current := covers.reads entry member
    unfold PaymentRead.Current at current ⊢
    rw [locks, orders, legs]
    exact current
  have fresh := covers.writes write member
  unfold PaymentWrite.Fresh at fresh ⊢
  rw [locks, orders, legs]
  exact fresh

theorem Unique.of_rows (unique : Unique t) (locks : later.locks = t.locks)
    (orders : later.orders = t.orders) (legs : later.legs = t.legs) : Unique later := by
  refine ⟨?_, ?_, ?_, ?_⟩
  · rw [locks]
    exact unique.locks
  · rw [orders]
    exact unique.orders
  · rw [orders]
    exact unique.keys
  · rw [legs]
    exact unique.legs

theorem Covers.attach (covers : Covers t view snapshot) (free : RowKey.order order ∉ view.keys)
    (decision : Uuid) : Covers (t.attach order decision) view snapshot := by
  refine ⟨fun entry member => ?_, fun write member => ?_⟩
  · have current := covers.reads entry member
    cases entry with
    | order row =>
      refine mem_updateWhere.mpr (.inr ⟨current, ?_⟩)
      have other : row.id ≠ order := by
        rintro rfl
        exact free (List.mem_append_left _ (List.mem_flatMap.mpr ⟨_, member, List.mem_singleton_self _⟩))
      simpa using other
    | _ => exact current
  have fresh := covers.writes write member
  cases write with
  | insertOrder new =>
    intro row present
    rcases mem_updateWhere.mp present with ⟨old, there, -, rfl⟩ | ⟨there, -⟩
    · exact fresh old there
    · exact fresh row there
  | _ => exact fresh

theorem live_of_occur {s after : PaymentStore} (occurs : s.occur event = some after)
    (open_ : after.live j = some session) : s.live j = some session := by
  cases event with
  | disconnect i =>
    cases occurs
    obtain ⟨found, sound⟩ := Option.filter_eq_some_iff.mp open_
    exact Option.filter_eq_some_iff.mpr ⟨(Sessions.get_of_get_close found).2, sound⟩
  | reference =>
    cases occurs
    exact open_
  | recordDecision | attach =>
    dsimp only [occur] at occurs
    split at occurs
    · cases occurs
    · cases occurs
      exact open_

theorem PaymentInvariant.env (invariant : PaymentInvariant config)
    (occurs : config.shared.occur event = some after) :
    PaymentInvariant { config with shared := after } := by
  have before {j : Nat} {session : PaymentSession} (open_ : after.live j = some session) :
      config.shared.live j = some session := live_of_occur occurs open_
  cases event with
  | disconnect i =>
    cases occurs
    exact ⟨invariant.unique, invariant.separate.close i,
      fun j session open_ => invariant.owned j session (before open_),
      fun j thread session present open_ => invariant.agrees j thread session present (before open_),
      fun j session open_ => invariant.covers j session (before open_)⟩
  | reference observations beneficiaries authorised =>
    cases occurs
    exact ⟨invariant.unique.of_rows rfl rfl rfl, invariant.separate, invariant.owned,
      invariant.agrees, fun j session open_ => (invariant.covers j session open_).of_rows rfl rfl rfl⟩
  | recordDecision decision =>
    dsimp only [occur] at occurs
    split at occurs
    · cases occurs
    cases occurs
    exact ⟨invariant.unique.of_rows rfl rfl rfl, invariant.separate, invariant.owned,
      invariant.agrees, fun j session open_ => (invariant.covers j session open_).of_rows rfl rfl rfl⟩
  | attach order decision =>
    dsimp only [occur] at occurs
    split at occurs
    · cases occurs
    rename_i guarded
    cases occurs
    refine ⟨invariant.unique.attach order decision, invariant.separate, invariant.owned,
      invariant.agrees, fun j session open_ => ?_⟩
    refine (invariant.covers j session open_).attach (fun held => ?_) decision
    have unheld := Sessions.anywhere_eq_false.mp
      (Bool.eq_false_iff.mpr fun locked => guarded (.inl locked)) j session (Sessions.get_of_live open_)
    simp [PaymentSession.holds, held] at unheld

theorem PaymentInvariant.spawn (invariant : PaymentInvariant config) (label : PaymentJob)
    (program : PaymentWork (Except String PaymentOutcome)) :
    PaymentInvariant { config with threads := config.threads ++ [⟨label, [], program⟩] } := by
  refine ⟨invariant.unique, invariant.separate, fun j session open_ => ?_, ?_, invariant.covers⟩
  · rw [List.length_append, List.length_singleton]
    exact Nat.lt_succ_of_lt (invariant.owned j session open_)
  intro j thread session present open_
  rcases getElem?_concat_cases present with ⟨rfl, -⟩ | old
  · exact absurd (invariant.owned _ session open_) (Nat.lt_irrefl _)
  · exact invariant.agrees j thread session old open_

theorem permits_of_reaches {i : Nat} (reached : controlPlane.Reaches ⟨{}, []⟩ config)
    (active : config.threads[i]? = some ⟨label, past, .call call next⟩) :
    (paymentSeenIn past).permits label call :=
  (caller_of_reaches reached (List.mem_of_getElem? active)).1

theorem paymentInvariant_of_reaches (reached : controlPlane.Reaches ⟨{}, []⟩ config) :
    PaymentInvariant config := by
  induction reached with
  | refl =>
    exact ⟨⟨List.nodup_nil, List.nodup_nil, List.nodup_nil, List.nodup_nil⟩, Sessions.apart_empty,
      fun _ _ open_ => absurd open_ nofun, fun _ _ _ present => absurd present nofun,
      fun _ _ open_ => absurd open_ nofun⟩
  | tail action before taken ih =>
    rcases Machine.next_cases taken with ⟨label, program, -, rfl⟩ |
      ⟨i, label, past, call, next, choice, answer, after, active, done, rfl⟩ |
      ⟨event, after, occurs, rfl⟩
    · exact ih.spawn label program
    · exact ih.exec active (permits_of_reaches before active) (paymentEffect_of_exec done)
    · exact ih.env occurs

end

/-! ## How the tables change -/

/-- What an action makes of the tables. A commit applies a complete change of a transaction
whose reads are current. -/
inductive Step (config : PaymentConfig) :
    Action PaymentJob PaymentChoice PaymentEvent → PaymentTables → Prop
  | quiet (action : Action PaymentJob PaymentChoice PaymentEvent) :
      Step config action config.shared.tables
  | reference (observations : List MarketObservation) (beneficiaries : List Beneficiary)
      (authorised : List Uuid) :
      Step config (.env (.reference observations beneficiaries authorised))
        { config.shared.tables with
          observations := observations, beneficiaries := beneficiaries, authorised := authorised }
  | decided (decision : PolicyDecision) :
      (∀ row ∈ config.shared.tables.decisions, row.id ≠ decision.id) →
      Step config (.env (.recordDecision decision))
        { config.shared.tables with decisions := config.shared.tables.decisions ++ [decision] }
  | attached (order decision : Uuid) :
      (∃ row ∈ config.shared.tables.decisions, row.id = decision) →
      Step config (.env (.attach order decision)) (config.shared.tables.attach order decision)
  | committed (i : Nat) (choice : PaymentChoice) (label : PaymentJob)
      (past : List (Event paymentCalls))
      (next : Except String Unit → PaymentWork (Except String PaymentOutcome))
      (session : PaymentSession) :
      config.threads[i]? = some ⟨label, past, .call (.run .commit) next⟩ →
      config.shared.live i = some session → session.view = (paymentSeenIn past).view →
      Complete label (paymentSeenIn past) →
      Covers config.shared.tables (paymentSeenIn past).view session.snapshot →
      (∀ text, choice ≠ .fails text) →
      Step config (.exec i choice) (config.shared.tables.applyAll (paymentSeenIn past).view.writes)

/-- Inversion of a step, in terms of what it makes of the tables. -/
theorem step_of_next (reached : controlPlane.Reaches ⟨{}, []⟩ config)
    (taken : controlPlane.next config action = some later) :
    Step config action later.shared.tables := by
  have invariant := paymentInvariant_of_reaches reached
  cases action with
  | spawn label =>
    obtain ⟨program, -, rfl⟩ := Machine.next_spawn taken
    exact .quiet _
  | exec i choice =>
    obtain ⟨label, past, call, next, answer, after, active, done, rfl⟩ := Machine.next_exec taken
    rcases tables_of_effect (paymentEffect_of_exec done) with same | ⟨session, open_, rfl, same, -⟩
    · rw [same]
      exact .quiet _
    by_cases fails : ∃ text, choice = .fails text
    · obtain ⟨text, rfl⟩ := fails
      cases done
      exact .quiet _
    have agrees := invariant.agrees i _ session active open_
    have covers := invariant.covers i session open_
    rw [same, agrees]
    rw [agrees] at covers
    exact .committed i choice label past next session active open_ agrees
      (permits_of_reaches reached active) covers (not_exists.mp fails)
  | env event =>
    obtain ⟨after, occurs, rfl⟩ := Machine.next_env taken
    change config.shared.occur event = some after at occurs
    cases event with
    | disconnect i =>
      cases occurs
      exact .quiet _
    | reference observations beneficiaries authorised =>
      cases occurs
      exact .reference observations beneficiaries authorised
    | recordDecision decision =>
      dsimp only [occur] at occurs
      split at occurs
      · cases occurs
      rename_i guarded
      cases occurs
      simp only [not_or, not_not] at guarded
      exact .decided decision (by simpa using guarded.1)
    | attach order decision =>
      dsimp only [occur] at occurs
      split at occurs
      · cases occurs
      rename_i guarded
      cases occurs
      simp only [not_or, not_not] at guarded
      exact .attached order decision (by simpa using guarded.2)

end UmojaFlowOS.Payments
