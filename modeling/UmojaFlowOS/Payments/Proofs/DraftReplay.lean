import UmojaFlowOS.Payments.Proofs.RateLockBindings

/-!
# Repeating a draft

A successful draft binds its rate lock, and a bound lock is refused before the branch for
repeated idempotency keys is reached.
-/

namespace UmojaFlowOS.Payments

open Interaction

/-! ## What callers have learnt -/

/-- The locks that callers have been shown to be bound are bound, and no order was found
without a lock. -/
def Learnt (config : PaymentConfig) : Prop :=
  ∀ thread ∈ config.threads,
    (∀ lockID ∈ (paymentSeenIn thread.past).bound,
      ∃ orderID, BoundTo config.shared.tables lockID orderID) ∧
    (paymentSeenIn thread.past).orphan = false

section
variable {seen : PaymentSeen}

theorem boundTo_of_complete (unique : Unique t) (complete : Complete job seen)
    (covers : Covers t seen.view snapshot) (bind : .bind lock order ∈ seen.view.writes) :
    BoundTo (t.applyAll seen.view.writes) lock order := by
  cases complete
  case drafted row new id time amount read live unbound clock early positive places derived usable written =>
    have present : row ∈ t.locks := covers.reads _ read
    rw [written] at bind ⊢
    obtain ⟨rfl, rfl⟩ : lock = row.id ∧ order = id := by simpa using bind
    exact ⟨_, (mem_locks_bind unique present order _).mpr (.inl rfl), rfl, rfl⟩
  all_goals
    rename_i written
    rw [written] at bind
    simp at bind

theorem replay_of_bound (bound : Bound t)
    (found : ((t.orders.find? fun row => row.idempotencyKey = key).map fun row =>
      (⟨row.id, row.status, row.targetAmount,
        (t.locks.find? fun lock => lock.paymentOrderID = some row.id).map (·.id)⟩ : Replay)) =
        some replay) :
    ∃ lockID orderID, replay.boundLockID = some lockID ∧ BoundTo t lockID orderID := by
  obtain ⟨order, first, rfl⟩ := Option.map_eq_some_iff.mp found
  obtain ⟨lock, present, binding, -⟩ := bound.orders order (List.mem_of_find?_eq_some first)
  cases located : t.locks.find? fun lock => lock.paymentOrderID = some order.id with
  | none => exact absurd (List.find?_eq_none.mp located lock present) (by simp [binding])
  | some other =>
    have same : other.paymentOrderID = some order.id := by simpa using List.find?_some located
    exact ⟨other.id, order.id, rfl, other, List.mem_of_find?_eq_some located, rfl, same⟩

theorem learns_of_effect (unique : Unique s.tables) (bound : Bound s.tables)
    (mine : ∀ session, s.live i = some session → session.view = seen.view ∧
      Covers s.tables session.view session.snapshot)
    (permitted : seen.permits job call) (effect : PaymentEffect s i call answer after) :
    (∀ lockID ∈ seen.view.learns ⟨call, answer⟩, ∃ orderID, BoundTo after.tables lockID orderID) ∧
      orphaned ⟨call, answer⟩ = false := by
  cases effect with
  | read | drawn | rolledBack | begun | refused =>
    exact ⟨fun _ member => absurd member List.not_mem_nil, rfl⟩
  | failed statement text =>
    cases statement <;> exact ⟨fun _ member => absurd member List.not_mem_nil, rfl⟩
  | committed session answer open_ =>
    rcases answer with text | rows
    · exact ⟨fun _ member => absurd member List.not_mem_nil, rfl⟩
    obtain ⟨same, covers⟩ := mine session open_
    refine ⟨fun lockID member => ?_, rfl⟩
    obtain ⟨write, written, shows⟩ := List.mem_filterMap.mp member
    cases write with
    | bind lock order =>
      cases shows
      rw [same] at covers
      show ∃ orderID, BoundTo (s.tables.applyAll session.view.writes) lockID orderID
      rw [same]
      exact ⟨order, boundTo_of_complete unique permitted covers written⟩
    | _ => cases shows
  | answered statement choice session rows open_ answered free =>
    obtain ⟨same, -⟩ := mine session open_
    cases answered_of_answer answered
    case replay key =>
      have committed : s.tables.applyAll session.view.writes = s.tables :=
        applyAll_of_unwritten (by rw [same]; exact permitted)
      rw [committed]
      cases found : (s.tables.orders.find? fun row => row.idempotencyKey = key).map fun row =>
          (⟨row.id, row.status, row.targetAmount,
            (s.tables.locks.find? fun lock => lock.paymentOrderID = some row.id).map (·.id)⟩ : Replay) with
      | none => exact ⟨fun _ member => absurd member List.not_mem_nil, rfl⟩
      | some replay =>
        obtain ⟨lockID, orderID, shows, binding⟩ := replay_of_bound bound found
        refine ⟨fun other member => ?_, by simp [orphaned, shows]⟩
        have own : other = lockID := by simpa [PaymentView.learns, shows] using member
        exact own ▸ ⟨orderID, binding⟩
    all_goals exact ⟨fun _ member => absurd member List.not_mem_nil, rfl⟩

end

/-- What callers were shown of bindings stays true. -/
theorem learnt_of_reaches (reached : controlPlane.Reaches ⟨{}, []⟩ config) : Learnt config := by
  induction reached with
  | refl => exact fun _ present => absurd present List.not_mem_nil
  | tail action before taken ih =>
    have invariant := paymentInvariant_of_reaches before
    have stays {lockID : Uuid} : (∃ orderID, BoundTo _ lockID orderID) → ∃ orderID, BoundTo _ lockID orderID :=
      fun ⟨orderID, bound⟩ =>
        ⟨orderID, (bindings_of_step invariant.unique (step_of_next before taken)).1 bound⟩
    rcases Machine.next_cases taken with ⟨label, program, -, rfl⟩ |
      ⟨i, label, past, call, next, choice, answer, after, active, done, rfl⟩ |
      ⟨event, after, occurs, rfl⟩
    · intro thread present
      rcases mem_concat.mp present with old | rfl
      · exact ih thread old
      · exact ⟨fun _ member => absurd member List.not_mem_nil, rfl⟩
    · intro thread present
      rcases List.mem_or_eq_of_mem_set present with old | rfl
      · exact ⟨fun lockID member => stays ((ih thread old).1 lockID member), (ih thread old).2⟩
      have known := ih _ (List.mem_of_getElem? active)
      have shown := learns_of_effect invariant.unique (bound_of_reaches before)
        (fun session open_ => ⟨invariant.agrees i _ session active open_,
          invariant.covers i session open_⟩)
        (permits_of_reaches before active) (paymentEffect_of_exec done)
      rw [paymentSeenIn_concat]
      refine ⟨fun lockID member => ?_, ?_⟩
      · rcases List.mem_append.mp member with new | old
        · exact shown.1 lockID new
        · exact stays (known.1 lockID old)
      show (_ || _) = false
      rw [known.2, shown.2]
      rfl
    · exact fun thread present =>
        ⟨fun lockID member => stays ((ih thread present).1 lockID member), (ih thread present).2⟩

/-! ## A bound lock is refused -/

/-- The lock `lockID` is found bound whenever it is looked at. -/
def foundBound (lockID : Uuid) : Event paymentCalls → Prop
  | ⟨.run (.selectLock id), .ok (some row)⟩ => id = lockID → row.paymentOrderID ≠ none
  | _ => True

def consumedContract (lockID : Uuid) : Contract paymentCalls Unit where
  rely _ := foundBound lockID
  guar _ _ := True
  observe _ _ := ()

abbrev nothing {α γ : Type} : γ → α → Prop := fun _ _ => False

/-- A draft with a bound lock returns nothing: it throws. -/
theorem createPaymentOrder_refused (actor : Actor) (input : OrderInput) :
    Keeps (consumedContract input.rateLockID) nothing () (createPaymentOrder actor input) := by
  unfold createPaymentOrder
  split
  · exact keeps_throw _
  split
  · exact keeps_throw _
  refine keeps_transaction trivial (fun _ => trivial) (keeps_query trivial fun found told => ?_)
  rcases found with _ | lock
  · exact keeps_throw _
  have consumed : lock.paymentOrderID ≠ none := told rfl
  dsimp only
  split
  · exact keeps_throw _
  refine keeps_now trivial fun time => ?_
  split
  · exact keeps_throw _
  split
  · exact keeps_throw _
  rename_i unbound
  exact absurd (by simpa using unbound) consumed

theorem foundBound_of_exec (reached : controlPlane.Reaches ⟨{}, []⟩ config)
    (bound : BoundTo config.shared.tables lockID orderID)
    (active : config.threads[i]? = some ⟨label, past, .call call next⟩)
    (done : config.shared.exec i call choice = some (answer, after)) :
    foundBound lockID ⟨call, answer⟩ := by
  have invariant := paymentInvariant_of_reaches reached
  have permitted := permits_of_reaches reached active
  cases paymentEffect_of_exec done with
  | failed statement text => cases statement <;> trivial
  | committed session answer => cases answer <;> trivial
  | answered statement choice session rows open_ answered free =>
    cases answered_of_answer answered
    case lock id =>
      have unwritten : session.view.writes = [] := by
        rw [invariant.agrees i _ session active open_]
        exact permitted
      rw [applyAll_of_unwritten unwritten]
      cases found : config.shared.tables.locks.find? fun row => row.id = id with
      | none => trivial
      | some row =>
        rintro rfl unbound
        obtain ⟨lock, present, own, binding⟩ := bound
        obtain ⟨there, same⟩ := find?_id found
        have equal := List.inj_on_of_nodup_map invariant.unique.locks present there
          (own.trans same.symm)
        rw [equal, unbound] at binding
        cases binding
    all_goals trivial
  | _ => trivial

section
variable {config later : PaymentConfig} {i j : Nat} {actor : Actor} {input : OrderInput}
  {past again : List (Event paymentCalls)} {outcome : PaymentOutcome}
  {result : Except String PaymentOutcome}

theorem boundTo_of_success (reached : controlPlane.Reaches ⟨{}, []⟩ config)
    (first : config.threads[i]? =
      some ⟨⟨actor, .createPaymentOrder input⟩, past, .ret (.ok outcome)⟩) :
    ∃ orderID, BoundTo config.shared.tables input.rateLockID orderID := by
  have ends := caller_of_reaches reached (List.mem_of_getElem? first)
  have known := learnt_of_reaches reached _ (List.mem_of_getElem? first)
  obtain ⟨order, -, learnt⟩ := ends outcome rfl
  rcases learnt with shown | orphan
  · exact known.1 _ shown
  · rw [known.2] at orphan
    cases orphan

/-- After a draft that succeeded, every later call with the same input that returns has
failed. -/
theorem repeated_draft_is_refused (reached : controlPlane.Reaches ⟨{}, []⟩ config)
    (first : config.threads[i]? =
      some ⟨⟨actor, .createPaymentOrder input⟩, past, .ret (.ok outcome)⟩)
    (ran : controlPlane.Reaches config later) (new : config.threads.length ≤ j)
    (second : later.threads[j]? = some ⟨⟨actor, .createPaymentOrder input⟩, again, .ret result⟩) :
    ∃ text, result = .error text := by
  obtain ⟨orderID, bound⟩ := boundTo_of_success reached first
  have told := ran.told_of_new
    (fun config => controlPlane.Reaches ⟨{}, []⟩ config ∧
      BoundTo config.shared.tables input.rateLockID orderID)
    (foundBound input.rateLockID)
    (fun action held taken => ⟨held.1.tail action taken, held.2.stays held.1 (.tail action .refl taken)⟩)
    (fun held active done => foundBound_of_exec held.1 held.2 active done) ⟨reached, bound⟩
  obtain ⟨shared, program, spawned, run⟩ :=
    (reached.trans ran).run_of_thread rfl (List.mem_of_getElem? second)
  cases spawned
  have refused : Keeps (consumedContract input.rateLockID) nothing ()
      (PaymentOutcome.drafted <$> createPaymentOrder actor input) := by
    refine Keeps.map ?_
    exact createPaymentOrder_refused actor input
  have ends := (Meets.run run refused (relied_of_forall (told.2 j _ new second))).2
  cases result with
  | error text => exact ⟨text, rfl⟩
  | ok outcome => exact (ends outcome rfl).elim

def returnedWith (config : PaymentConfig) (i : Nat) (job : PaymentJob)
    (result : Except String PaymentOutcome) : Bool :=
  config.threads[i]?.any fun thread =>
    decide (thread.label = job) && decide (thread.rest.returned = some result)

theorem thread_of_returnedWith (done : returnedWith config i job result = true) :
    ∃ past, config.threads[i]? = some ⟨job, past, .ret result⟩ := by
  obtain ⟨⟨label, past, rest⟩, found, facts⟩ := (Option.any_eq_true _ _).mp done
  simp only [Bool.and_eq_true, decide_eq_true_eq] at facts
  obtain ⟨rfl, finished⟩ := facts
  exact ⟨past, by rw [found, Program.eq_ret_of_returned finished]⟩

end

def sampleOutcome : PaymentOutcome :=
  .drafted ⟨20, .draft, ⟨3750625000000000, 12⟩, 7, ⟨1500250000000000, 12⟩, false⟩

/-- The same call again: the lock is read, found live and unexpired, and found consumed. -/
def sampleRepetition : List (Action PaymentJob PaymentChoice PaymentEvent) :=
  .spawn ⟨treasurer, .createPaymentOrder sampleInput⟩ ::
    execs 2 [.proceeds, .proceeds, .reads 11, .proceeds]

def consumedText : String :=
  "Rate lock has already been consumed by a payment order; reuse fails closed"

theorem sampleRepetition_returns :
    (controlPlane.replay ⟨{}, []⟩ sampleDraft).any (fun config =>
      (controlPlane.replay config sampleRepetition).any fun later =>
        returnedWith config 1 ⟨treasurer, .createPaymentOrder sampleInput⟩ (.ok sampleOutcome) &&
          decide (config.threads.length = 2) && decide (config.shared.tables = later.shared.tables) &&
          returnedWith later 2 ⟨treasurer, .createPaymentOrder sampleInput⟩ (.error consumedText)) =
        true := by
  decide

/-- A treasurer whose draft has succeeded sends it again at once, and is told that the lock
has been consumed. -/
theorem draft_is_not_repeatable :
    ∃ config later, controlPlane.Reaches ⟨{}, []⟩ config ∧ controlPlane.Reaches config later ∧
      returnedWith config 1 ⟨treasurer, .createPaymentOrder sampleInput⟩ (.ok sampleOutcome) = true ∧
      config.threads.length = 2 ∧ config.shared.tables = later.shared.tables ∧
      returnedWith later 2 ⟨treasurer, .createPaymentOrder sampleInput⟩
        (.error "Rate lock has already been consumed by a payment order; reuse fails closed") =
          true := by
  obtain ⟨config, replayed, repeats⟩ := (Option.any_eq_true _ _).mp sampleRepetition_returns
  obtain ⟨later, repeated, facts⟩ := (Option.any_eq_true _ _).mp repeats
  simp only [Bool.and_eq_true, decide_eq_true_eq] at facts
  exact ⟨config, later, Machine.reaches_of_replay replayed, Machine.reaches_of_replay repeated,
    facts.1.1.1, facts.1.1.2, facts.1.2, facts.2⟩

/-- So it must be with the sample run. -/
theorem sample_draft_is_refused :
    ∃ config later, controlPlane.Reaches ⟨{}, []⟩ config ∧ controlPlane.Reaches config later ∧
      ∃ text, returnedWith later 2 ⟨treasurer, .createPaymentOrder sampleInput⟩ (.error text) =
        true := by
  obtain ⟨config, replayed, repeats⟩ := (Option.any_eq_true _ _).mp sampleRepetition_returns
  obtain ⟨later, repeated, facts⟩ := (Option.any_eq_true _ _).mp repeats
  simp only [Bool.and_eq_true, decide_eq_true_eq] at facts
  have reached := Machine.reaches_of_replay replayed
  have ran := Machine.reaches_of_replay repeated
  obtain ⟨past, started⟩ := thread_of_returnedWith facts.1.1.1
  obtain ⟨again, ended⟩ := thread_of_returnedWith facts.2
  obtain ⟨text, same⟩ := repeated_draft_is_refused reached started ran facts.1.1.2.le ended
  exact ⟨config, later, reached, ran, text, same ▸ facts.2⟩

end UmojaFlowOS.Payments
