import UmojaFlowOS.Payments.Proofs.PaymentInvariant

/-!
# Rate locks and the orders they back

Every order is bound to exactly one rate lock, from which its target amount is derived, and a
lock that is bound stays bound to the same order.
-/

namespace UmojaFlowOS.Payments

open Interaction Relational

/-! ## Amounts -/

/-- The target amount is what the source amount is worth at the locked rate. -/
def Derived (order : PaymentOrder) (lock : RateLock) : Prop :=
  order.targetAmount.toRat = roundHalfAway 8 (order.sourceAmount.toRat * lock.lockedRate.toRat) ∧
    0 < order.targetAmount.toRat

theorem derived_row {new : NewOrder} {id : Uuid} (rate : 0 < lock.lockedRate.unscaled)
    (positive : 0 < (new.row id).sourceAmount.unscaled) (places : new.sourceAmount.scale ≤ 12)
    (derived : new.targetAmount = (new.sourceAmount.mul lock.lockedRate).roundTo 8)
    (usable : new.targetAmount ≠ ⟨0, 8⟩) : Derived (new.row id) lock := by
  have source : (new.row id).sourceAmount.toRat = new.sourceAmount.toRat :=
    Numeric.toRat_roundTo_of_le places
  have scale : new.targetAmount.scale = 8 := by
    rw [derived, Numeric.scale_roundTo]
  have target : (new.row id).targetAmount.toRat = new.targetAmount.toRat :=
    Numeric.toRat_roundTo_of_le (by omega)
  have amount : 0 < new.sourceAmount.unscaled := by
    rw [← Numeric.toRat_pos, ← source, Numeric.toRat_pos]
    exact positive
  refine ⟨?_, ?_⟩
  · rw [target, source, derived, Numeric.toRat_roundTo, Numeric.toRat_mul]
  rw [target, Numeric.toRat_pos]
  have product : 0 ≤ (new.sourceAmount.mul lock.lockedRate).unscaled :=
    Int.mul_nonneg amount.le rate.le
  have least : 0 ≤ new.targetAmount.unscaled := derived ▸ Numeric.roundTo_nonneg product 8
  refine lt_of_le_of_ne least fun zero => usable ?_
  show (⟨new.targetAmount.unscaled, new.targetAmount.scale⟩ : Numeric) = ⟨0, 8⟩
  rw [← zero, scale]

/-! ## The tables -/

structure Bound (t : PaymentTables) : Prop where
  orders : ∀ order ∈ t.orders, ∃ lock ∈ t.locks, lock.paymentOrderID = some order.id ∧ Derived order lock
  alone : ∀ lock ∈ t.locks, ∀ other ∈ t.locks, ∀ id, lock.paymentOrderID = some id →
    other.paymentOrderID = some id → lock.id = other.id
  backed : ∀ lock ∈ t.locks, ∀ id, lock.paymentOrderID = some id → ∃ order ∈ t.orders, order.id = id
  rates : ∀ lock ∈ t.locks, 0 < lock.lockedRate.unscaled

def RateLock.terms (lock : RateLock) : Uuid × Option Uuid × Numeric :=
  (lock.id, lock.paymentOrderID, lock.lockedRate)

def PaymentOrder.amounts (order : PaymentOrder) : Uuid × Numeric × Numeric :=
  (order.id, order.sourceAmount, order.targetAmount)

theorem exists_of_map_eq {ρ κ : Type} {columns : ρ → κ} {rows others : List ρ} {row : ρ}
    (same : rows.map columns = others.map columns) (present : row ∈ rows) :
    ∃ other ∈ others, columns other = columns row := by
  have listed : columns row ∈ others.map columns := same ▸ List.mem_map_of_mem present
  exact List.mem_map.mp listed

section
variable {t later : PaymentTables}

theorem Bound.of_rows (bound : Bound t)
    (locks : later.locks.map RateLock.terms = t.locks.map RateLock.terms)
    (orders : later.orders.map PaymentOrder.amounts = t.orders.map PaymentOrder.amounts) :
    Bound later := by
  have lockOf : ∀ lock ∈ later.locks, ∃ old ∈ t.locks, old.id = lock.id ∧
      old.paymentOrderID = lock.paymentOrderID ∧ old.lockedRate = lock.lockedRate := by
    intro lock present
    obtain ⟨old, before, same⟩ := exists_of_map_eq locks present
    simp only [RateLock.terms, Prod.mk.injEq] at same
    exact ⟨old, before, same⟩
  refine ⟨?_, ?_, ?_, ?_⟩
  · intro order present
    obtain ⟨old, before, amounts⟩ := exists_of_map_eq orders present
    simp only [PaymentOrder.amounts, Prod.mk.injEq] at amounts
    obtain ⟨id, source, target⟩ := amounts
    obtain ⟨lock, held, binding, derived⟩ := bound.orders old before
    obtain ⟨now, listed, terms⟩ := exists_of_map_eq locks.symm held
    simp only [RateLock.terms, Prod.mk.injEq] at terms
    refine ⟨now, listed, by rw [terms.2.1, binding, id], ?_⟩
    unfold Derived at derived ⊢
    rw [← source, ← target, terms.2.2]
    exact derived
  · intro lock first other second id one two
    obtain ⟨old, before, own, binding, -⟩ := lockOf lock first
    obtain ⟨old', before', own', binding', -⟩ := lockOf other second
    rw [← own, ← own']
    exact bound.alone old before old' before' id (binding.trans one) (binding'.trans two)
  · intro lock there id binding
    obtain ⟨old, before, -, same, -⟩ := lockOf lock there
    obtain ⟨order, listed, own⟩ := bound.backed old before id (same.trans binding)
    obtain ⟨now, present, amounts⟩ := exists_of_map_eq orders.symm listed
    simp only [PaymentOrder.amounts, Prod.mk.injEq] at amounts
    exact ⟨now, present, amounts.1.trans own⟩
  intro lock there
  obtain ⟨old, before, -, -, rate⟩ := lockOf lock there
  rw [← rate]
  exact bound.rates old before

theorem Bound.insertLock (bound : Bound t) (lock : RateLock) (unbound : lock.paymentOrderID = none)
    (rate : 0 < lock.lockedRate.unscaled) : Bound (PaymentWrite.apply t (.insertLock lock)) := by
  have old : ∀ other ∈ t.locks ++ [lock], ∀ id, other.paymentOrderID = some id → other ∈ t.locks := by
    intro other present id binding
    rcases List.mem_append.mp present with before | new
    · exact before
    · rw [List.mem_singleton.mp new, unbound] at binding
      cases binding
  refine ⟨?_, ?_, ?_, ?_⟩
  · intro order present
    obtain ⟨held, before, facts⟩ := bound.orders order present
    exact ⟨held, List.mem_append_left _ before, facts⟩
  · intro first one second two id left right
    exact bound.alone first (old first one id left) second (old second two id right) id left right
  · intro held present id binding
    exact bound.backed held (old held present id binding) id binding
  intro held present
  rcases mem_concat.mp present with before | rfl
  · exact bound.rates held before
  · exact rate

theorem mem_locks_bind (unique : Unique t) (present : row ∈ t.locks) (id : Uuid) (lock : RateLock) :
    lock ∈ (PaymentWrite.apply t (.bind row.id id)).locks ↔
      lock = { row with paymentOrderID := some id } ∨ lock ∈ t.locks ∧ lock.id ≠ row.id :=
  mem_updateWhere_of_unique unique.locks present (by simp) fun other same => by simpa using same

/-- Drafting an order binds its lock and no other. -/
theorem Bound.draft (bound : Bound t) (unique : Unique t) (present : row ∈ t.locks)
    (unbound : row.paymentOrderID = none) (fresh : ∀ other ∈ t.orders, other.id ≠ order.id)
    (derived : Derived order row) (first second : ActivityEvent) :
    Bound (t.applyAll [.insertOrder order, .event first, .bind row.id order.id, .event second]) := by
  have locks := mem_locks_bind unique present order.id
  -- no lock was bound to the new order
  have unused : ∀ lock ∈ t.locks, lock.paymentOrderID ≠ some order.id := by
    intro lock there binding
    obtain ⟨old, listed, same⟩ := bound.backed lock there _ binding
    exact fresh old listed same
  refine ⟨?_, ?_, ?_, ?_⟩
  · intro other listed
    rcases mem_concat.mp listed with before | rfl
    · obtain ⟨lock, there, binding, facts⟩ := bound.orders other before
      refine ⟨lock, (locks lock).mpr (.inr ⟨there, fun same => ?_⟩), binding, facts⟩
      rw [List.inj_on_of_nodup_map unique.locks there present same, unbound] at binding
      cases binding
    · exact ⟨_, (locks _).mpr (.inl rfl), rfl, derived⟩
  · intro lock one other two id left right
    rcases (locks lock).mp one with rfl | ⟨before, -⟩
    · rcases (locks other).mp two with rfl | ⟨there, -⟩
      · rfl
      · cases left
        exact absurd right (unused other there)
    rcases (locks other).mp two with rfl | ⟨there, -⟩
    · cases right
      exact absurd left (unused lock before)
    · exact bound.alone lock before other there id left right
  · intro lock there id binding
    rcases (locks lock).mp there with rfl | ⟨before, -⟩
    · cases binding
      exact ⟨order, List.mem_concat_self, rfl⟩
    · obtain ⟨old, listed, same⟩ := bound.backed lock before id binding
      exact ⟨old, List.mem_append_left _ listed, same⟩
  intro lock there
  rcases (locks lock).mp there with rfl | ⟨before, -⟩
  · exact bound.rates row present
  · exact bound.rates lock before

/-- The writes that no binding depends on. -/
def PaymentWrite.isPlain : PaymentWrite → Bool
  | insertLock _ | insertOrder _ | bind _ _ => false
  | _ => true

theorem Bound.applyAll (bound : Bound t)
    (plain : ∀ write ∈ writes, write.isPlain = true) : Bound (t.applyAll writes) := by
  refine applyAll_keeps Bound (fun t write member bound => ?_) bound
  have quiet := plain write member
  cases write with
  | insertLock | insertOrder | bind => cases quiet
  | lockStatus => exact bound.of_rows (map_updateWhere fun _ => rfl) rfl
  | orderStatus => exact bound.of_rows rfl (map_updateWhere fun _ => rfl)
  | _ => exact bound.of_rows rfl rfl

theorem Bound.complete (bound : Bound t) (unique : Unique t) (complete : Complete job seen)
    (covers : Covers t seen.view snapshot) : Bound (t.applyAll seen.view.writes) := by
  cases complete with
  | nothing written =>
    rw [written]
    exact bound
  | created new id event written =>
    have fresh : (PaymentWrite.insertLock (new.row id)).Fresh t :=
      covers.writes _ (by rw [written]; exact List.mem_cons_self ..)
    rw [written]
    exact (bound.insertLock (new.row id) rfl fresh.1).applyAll (by simp [PaymentWrite.isPlain])
  | expired ids events written | cancelled row event read free written
  | legDrafted order new id event read own written
  | orderMoved row status reason read allowed decided written
  | legMoved row orderStatus status reason read allowed decided written =>
    rw [written]
    exact bound.applyAll (by simp [PaymentWrite.isPlain])
  | drafted row new id time amount read live unbound clock early positive places derived usable written =>
    have fresh : (PaymentWrite.insertOrder (new.row id)).Fresh t :=
      covers.writes _ (by rw [written]; exact List.mem_cons_self ..)
    have present : row ∈ t.locks := covers.reads _ read
    rw [written]
    exact bound.draft unique present unbound (fun other listed => (fresh other listed).1)
      (derived_row (bound.rates row present) positive places derived usable) _ _

end

theorem Bound.step (bound : Bound config.shared.tables)
    (unique : Unique config.shared.tables) (step : Step config action tables) : Bound tables := by
  cases step with
  | quiet => exact bound
  | reference | decided => exact bound.of_rows rfl rfl
  | attached => exact bound.of_rows rfl (map_updateWhere fun _ => rfl)
  | committed i choice label past next session active open_ agrees complete covers =>
    exact bound.complete unique complete covers

theorem bound_of_reaches (reached : controlPlane.Reaches ⟨{}, []⟩ config) :
    Bound config.shared.tables := by
  induction reached with
  | refl =>
    exact ⟨by simp,
      by simp,
      by simp,
      by simp⟩
  | tail action before taken ih =>
    exact ih.step (paymentInvariant_of_reaches before).unique (step_of_next before taken)

/-! ## Bindings over time -/

def BoundTo (t : PaymentTables) (lockID orderID : Uuid) : Prop :=
  ∃ lock ∈ t.locks, lock.id = lockID ∧ lock.paymentOrderID = some orderID

section
variable {t later : PaymentTables} {lockID orderID : Uuid}

theorem BoundTo.of_terms (bound : BoundTo t lockID orderID)
    (same : later.locks.map RateLock.terms = t.locks.map RateLock.terms) :
    BoundTo later lockID orderID := by
  obtain ⟨lock, present, own, binding⟩ := bound
  obtain ⟨now, listed, terms⟩ := exists_of_map_eq same.symm present
  simp only [RateLock.terms, Prod.mk.injEq] at terms
  exact ⟨now, listed, terms.1.trans own, terms.2.1.trans binding⟩

theorem BoundTo.eq (first : BoundTo t lockID orderID)
    (second : BoundTo t lockID other) (unique : Unique t) : orderID = other := by
  obtain ⟨lock, present, own, binding⟩ := first
  obtain ⟨lock', present', own', binding'⟩ := second
  have same := List.inj_on_of_nodup_map unique.locks present present' (own.trans own'.symm)
  rw [same, binding'] at binding
  exact (Option.some.inj binding).symm

theorem terms_applyAll (plain : ∀ write ∈ writes, write.isPlain = true) :
    (t.applyAll writes).locks.map RateLock.terms = t.locks.map RateLock.terms := by
  refine applyAll_keeps (fun later => later.locks.map RateLock.terms = t.locks.map RateLock.terms)
    (fun later write member same => ?_) rfl
  have quiet := plain write member
  cases write with
  | insertLock | insertOrder | bind => cases quiet
  | lockStatus ids status =>
    have kept : (PaymentWrite.apply later (.lockStatus ids status)).locks.map RateLock.terms =
        later.locks.map RateLock.terms := map_updateWhere fun _ => rfl
    exact kept.trans same
  | _ => exact same

/-- How the bindings change with a complete change: not at all, or the one lock that was
read as live and unbound becomes bound. -/
theorem bindings_of_complete
    (unique : Unique t) (complete : Complete job seen) (covers : Covers t seen.view snapshot) :
    (∀ lockID orderID, BoundTo (t.applyAll seen.view.writes) lockID orderID ↔
      BoundTo t lockID orderID) ∨
    ∃ row ∈ t.locks, ∃ id time, row.status = .locked ∧ row.paymentOrderID = none ∧
      seen.clock = some time ∧ time < row.expiresAt ∧
      { row with paymentOrderID := some id } ∈ (t.applyAll seen.view.writes).locks ∧
      ∀ lockID orderID, BoundTo (t.applyAll seen.view.writes) lockID orderID ↔
        lockID = row.id ∧ orderID = id ∨ BoundTo t lockID orderID := by
  have quiet (plain : ∀ write ∈ seen.view.writes, write.isPlain = true) (lockID orderID : Uuid) :
      BoundTo (t.applyAll seen.view.writes) lockID orderID ↔ BoundTo t lockID orderID :=
    ⟨fun bound => bound.of_terms (terms_applyAll plain).symm,
      fun bound => bound.of_terms (terms_applyAll plain)⟩
  cases complete with
  | nothing written => exact .inl (quiet (by simp [written]))
  | created new id event written =>
    left
    intro lockID orderID
    rw [written]
    constructor
    · rintro ⟨lock, present, own, binding⟩
      rcases mem_concat.mp present with old | rfl
      · exact ⟨lock, old, own, binding⟩
      · cases binding
    · rintro ⟨lock, present, own, binding⟩
      exact ⟨lock, List.mem_append_left _ present, own, binding⟩
  | expired ids events written => exact .inl (quiet (by simp [written, PaymentWrite.isPlain]))
  | cancelled row event read free written | legDrafted order new id event read own written
  | orderMoved row status reason read allowed decided written
  | legMoved row orderStatus status reason read allowed decided written =>
    exact .inl (quiet (by simp [written, PaymentWrite.isPlain]))
  | drafted row new id time amount read live unbound clock early positive places derived usable written =>
    have present : row ∈ t.locks := covers.reads _ read
    have locks (lock : RateLock) : lock ∈ (t.applyAll seen.view.writes).locks ↔
        lock = { row with paymentOrderID := some id } ∨ lock ∈ t.locks ∧ lock.id ≠ row.id := by
      rw [written]
      exact mem_locks_bind unique present id lock
    refine .inr ⟨row, present, id, time, live, unbound, clock, early, (locks _).mpr (.inl rfl), ?_⟩
    intro lockID orderID
    constructor
    · rintro ⟨lock, there, own, binding⟩
      rcases (locks lock).mp there with rfl | ⟨before, -⟩
      · exact .inl ⟨own.symm, (Option.some.inj binding).symm⟩
      · exact .inr ⟨lock, before, own, binding⟩
    rintro (⟨rfl, rfl⟩ | ⟨lock, before, own, binding⟩)
    · exact ⟨_, (locks _).mpr (.inl rfl), rfl, rfl⟩
    refine ⟨lock, (locks _).mpr (.inr ⟨before, fun same => ?_⟩), own, binding⟩
    rw [List.inj_on_of_nodup_map unique.locks before present same, unbound] at binding
    cases binding

end

theorem now_of_clock (read : (paymentSeenIn past).clock = some time) :
    (⟨.now, time⟩ : Event paymentCalls) ∈ past := by
  induction past using List.reverseRecOn with
  | nil => cases read
  | append_singleton past event ih =>
    rw [paymentSeenIn_concat] at read
    obtain ⟨call, answer⟩ := event
    cases call with
    | now =>
      cases read
      simp
    | _ => exact List.mem_append_left _ (ih read)

section
variable {config later : PaymentConfig} {action : Action PaymentJob PaymentChoice PaymentEvent}
  {lockID orderID : Uuid}

/-- A lock that becomes bound in a step was live and unbound, and its expiry was not reached
when the caller last looked at the clock. -/
structure BoundLive (config : PaymentConfig) (action : Action PaymentJob PaymentChoice PaymentEvent)
    (later : PaymentTables) (lock : RateLock) : Prop where
  present : lock ∈ config.shared.tables.locks
  unbound : lock.paymentOrderID = none
  live : lock.status = .locked
  still : ∃ now ∈ later.locks, now.id = lock.id ∧ now.status = .locked
  early : ∃ i choice thread time, action = .exec i choice ∧ config.threads[i]? = some thread ∧
    ⟨.now, time⟩ ∈ thread.past ∧ time < lock.expiresAt

/-- Bindings stay, and a new one is of a lock that was live. -/
theorem bindings_of_step (unique : Unique config.shared.tables) (step : Step config action tables) :
    (BoundTo config.shared.tables lockID orderID → BoundTo tables lockID orderID) ∧
      (BoundTo tables lockID orderID → BoundTo config.shared.tables lockID orderID ∨
        ∃ lock, lock.id = lockID ∧ BoundLive config action tables lock) := by
  cases step with
  | quiet | reference | decided | attached => exact ⟨id, .inl⟩
  | committed i choice label past next session active open_ agrees complete covers =>
    rcases bindings_of_complete unique complete covers with same |
      ⟨row, present, order, time, live, unbound, clock, early, bound, changes⟩
    · exact ⟨(same lockID orderID).mpr, fun now => .inl ((same lockID orderID).mp now)⟩
    refine ⟨fun before => (changes lockID orderID).mpr (.inr before), fun now => ?_⟩
    rcases (changes lockID orderID).mp now with ⟨own, -⟩ | before
    · exact .inr ⟨row, own.symm, present, unbound, live, ⟨_, bound, rfl, live⟩,
        ⟨i, choice, _, time, rfl, active, now_of_clock clock, early⟩⟩
    · exact .inl before

theorem BoundTo.stays (reached : controlPlane.Reaches ⟨{}, []⟩ config)
    (ran : controlPlane.Reaches config later)
    (bound : BoundTo config.shared.tables lockID orderID) :
    BoundTo later.shared.tables lockID orderID := by
  induction ran with
  | refl => exact bound
  | tail action before taken ih =>
    have so_far := reached.trans before
    exact (bindings_of_step (paymentInvariant_of_reaches so_far).unique
      (step_of_next so_far taken)).1 ih

/-- In every state that rate locks and orders can be brought to, each order is bound to
exactly one lock and each lock to at most one order, for ever; the target amount is the
positive amount derived from the rate of that lock; and a lock is bound only while live. -/
theorem each_order_has_its_lock (reached : controlPlane.Reaches ⟨{}, []⟩ config) :
    (∀ order ∈ config.shared.tables.orders,
      ∃! lockID, BoundTo config.shared.tables lockID order.id) ∧
    (∀ order ∈ config.shared.tables.orders, ∀ lock ∈ config.shared.tables.locks,
      lock.paymentOrderID = some order.id →
        order.targetAmount.toRat =
          roundHalfAway 8 (order.sourceAmount.toRat * lock.lockedRate.toRat) ∧
        0 < order.targetAmount.toRat) ∧
    (∀ later, controlPlane.Reaches config later → ∀ lockID orderID,
      BoundTo config.shared.tables lockID orderID → BoundTo later.shared.tables lockID orderID ∧
        ∀ other, BoundTo later.shared.tables lockID other → other = orderID) ∧
    ∀ action later, controlPlane.next config action = some later → ∀ lockID orderID,
      BoundTo later.shared.tables lockID orderID → ¬ BoundTo config.shared.tables lockID orderID →
        ∃ lock, lock.id = lockID ∧ BoundLive config action later.shared.tables lock := by
  have bound := bound_of_reaches reached
  have unique := (paymentInvariant_of_reaches reached).unique
  refine ⟨?_, ?_, ?_, ?_⟩
  · intro order present
    obtain ⟨lock, there, binding, -⟩ := bound.orders order present
    refine ⟨lock.id, ⟨lock, there, rfl, binding⟩, ?_⟩
    rintro other ⟨lock', there', rfl, binding'⟩
    exact bound.alone lock' there' lock there order.id binding' binding
  · intro order present lock there binding
    obtain ⟨own, listed, same, derived⟩ := bound.orders order present
    have equal := bound.alone lock there own listed order.id binding same
    rw [List.inj_on_of_nodup_map unique.locks there listed equal]
    exact derived
  · intro later ran lockID orderID now
    have stays := now.stays reached ran
    refine ⟨stays, fun other also => ?_⟩
    exact also.eq stays (paymentInvariant_of_reaches (reached.trans ran)).unique
  · intro action later taken lockID orderID now fresh
    exact ((bindings_of_step unique (step_of_next reached taken)).2 now).resolve_left fresh

end

/-! ## A sample run -/

def treasurer : Actor := ⟨"treasury-1", .treasuryOperator⟩

/-- One dollar is 1500.25 naira. -/
def sampleRate : MarketObservation := ⟨1, .usd, .ngn, ⟨150025, 2⟩, 0⟩

def sampleInput : OrderInput := ⟨"order-key-1", 3, 2, 7, "2.5"⟩

def execs (i : Nat) (choices : List PaymentChoice) :
    List (Action PaymentJob PaymentChoice PaymentEvent) := choices.map (.exec i)

/-- A rate is locked, and an order over 2.5 dollars is drafted with it. -/
def sampleDraft : List (Action PaymentJob PaymentChoice PaymentEvent) :=
  [.env (.reference [sampleRate] [⟨2, 3, .clear⟩] [9]),
    .spawn ⟨treasurer, .createRateLock 1 .nigeriaNGN 1000⟩] ++
  execs 0 [.proceeds, .proceeds, .reads 0, .assigns 7, .proceeds, .proceeds] ++
  [.spawn ⟨treasurer, .createPaymentOrder sampleInput⟩] ++
  execs 1 [.proceeds, .proceeds, .reads 10, .proceeds, .proceeds, .assigns 20, .proceeds, .proceeds,
    .proceeds, .proceeds]

/-- The drafted order has its lock. -/
theorem sample_order_has_its_lock :
    ∃ config, controlPlane.Reaches ⟨{}, []⟩ config ∧ ∃ order ∈ config.shared.tables.orders,
      order.id = 20 ∧ ∃! lockID, BoundTo config.shared.tables lockID order.id := by
  have runs : ∃ config, controlPlane.Reaches ⟨{}, []⟩ config ∧
      ∃ order ∈ config.shared.tables.orders, order.id = 20 :=
    Machine.exists_of_replay sampleDraft (by decide)
  obtain ⟨config, reached, order, present, own⟩ := runs
  exact ⟨config, reached, order, present, own, (each_order_has_its_lock reached).1 order present⟩

end UmojaFlowOS.Payments
