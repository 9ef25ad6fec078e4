import UmojaFlowOS.Interaction.Guarded
import UmojaFlowOS.Multirail.Proofs.UnknownSteps

/-!
# The invariant of the tables of unknown states

As long as only terminal decisions are recorded, a key has at most one decision, and it
has one exactly when its row is resolved at the attempt of that decision. What open
transactions have written keeps clear of what is committed and of each other.
-/

namespace UmojaFlowOS.Multirail

open Go Interaction Relational Sessions

/-! ## Rows -/

section
variable {row : QueueRow} {key lease : String}

theorem heldBy_iff : row.heldBy key attempts lease = true ↔
    row.key = key ∧ row.attempts = attempts ∧ row.leaseToken = some lease ∧
      row.resolved = false := by
  simp [QueueRow.heldBy, and_assoc]

theorem closed_key (decidedAt : Time) (row : QueueRow) : (row.closed decidedAt).key = row.key := rfl

theorem claimable_iff : row.claimable key now = true ↔
    row.key = key ∧ row.resolved = false ∧ row.state.nextAttemptAt ≤ now ∧
      ∀ leaseUntil ∈ row.leaseUntil, leaseUntil ≤ now := by
  simp [QueueRow.claimable, and_assoc, Option.all_eq_true]

theorem enqueues_eq_false {session : Session} (none_ : session.enqueues key = false)
    (written : .enqueue row ∈ session.writes) : row.key ≠ key := by
  have nothing := List.any_eq_false.mp none_ _ written
  simpa using nothing

theorem decides_eq_false {session : Session} (none_ : session.decides result = false)
    (written : .decide d ∈ session.writes) : d.clashes result = false := by
  have nothing := List.any_eq_false.mp none_ _ written
  simpa using nothing

theorem key_ne_of_clashes {d result : ReconciliationResult} (apart : d.clashes result = false)
    (first : d.decision.terminal = true) (second : result.decision.terminal = true) :
    d.idempotencyKey ≠ result.idempotencyKey := by
  intro same
  rw [ReconciliationResult.clashes, first, second, same] at apart
  simp at apart

theorem locks_eq_false {session : Session} : session.locks key = false ↔
    ∀ locked attempt lease decidedAt, .resolve locked attempt lease decidedAt ∈ session.writes →
      locked ≠ key := by
  rw [Session.locks, List.any_eq_false]
  constructor
  · intro none_ locked attempt lease decidedAt written same
    exact none_ _ written (by simpa using same)
  intro free write written
  cases write with
  | resolve locked attempt lease decidedAt =>
    simpa using free locked attempt lease decidedAt written
  | _ => simp

end

/-! ## Open transactions -/

/-- A decision that may become the only one of its key. -/
structure Fresh (rows : Rows) (d : ReconciliationResult) : Prop where
  closed : d.settlementAllowed = false
  terminal : d.decision.terminal = true
  first : ∀ other ∈ rows.decisions, other.idempotencyKey ≠ d.idempotencyKey

/-- What an open transaction may have written. -/
inductive Pending (rows : Rows) : List Write → Prop
  | nothing : Pending rows []
  | enqueue (absent : ∀ other ∈ rows.queue, other.key ≠ row.key)
      (open_ : row.resolved = false) : Pending rows [.enqueue row]
  | decide (fresh : Fresh rows d) : Pending rows [.decide d]
  | resolve (fresh : Fresh rows d)
      (held : ∃ row ∈ rows.queue, row.heldBy d.idempotencyKey d.attempt lease = true) :
      Pending rows [.decide d, .resolve d.idempotencyKey d.attempt lease decidedAt]

/-- Two transactions that write different keys. -/
structure Apart (first second : List Write) : Prop where
  queue : ∀ mine other, .enqueue mine ∈ first → .enqueue other ∈ second → mine.key ≠ other.key
  decisions : ∀ mine other, .decide mine ∈ first → .decide other ∈ second →
    mine.idempotencyKey ≠ other.idempotencyKey

theorem Apart.symm (apart : Apart first second) :
    Apart second first where
  queue mine other left right := (apart.queue other mine right left).symm
  decisions mine other left right := (apart.decisions other mine right left).symm

theorem apart_nil (writes : List Write) : Apart [] writes where
  queue _ _ none_ := absurd none_ List.not_mem_nil
  decisions _ _ none_ := absurd none_ List.not_mem_nil

section
variable {rows : Rows} {writes : List Write}

section
variable (pending : Pending rows writes)
include pending

/-- What other transactions have written stays clear of rows that change. -/
theorem Pending.of_rows
    (queue : ∀ row, .enqueue row ∈ writes → ∀ other ∈ later.queue, other.key ≠ row.key)
    (decisions : ∀ d, .decide d ∈ writes → ∀ other ∈ later.decisions,
      other.idempotencyKey ≠ d.idempotencyKey)
    (held : ∀ key attempt lease decidedAt, .resolve key attempt lease decidedAt ∈ writes →
      ∃ row ∈ later.queue, row.heldBy key attempt lease = true) : Pending later writes := by
  cases pending with
  | nothing => exact .nothing
  | enqueue absent open_ => exact .enqueue (queue _ (by simp)) open_
  | decide fresh =>
    exact .decide ⟨fresh.closed, fresh.terminal, decisions _ (by simp)⟩
  | resolve fresh lock =>
    exact .resolve ⟨fresh.closed, fresh.terminal, decisions _ (by simp)⟩
      (held _ _ _ _ (List.mem_cons_of_mem _ (List.mem_singleton_self _)))

theorem Pending.absent
    (written : .enqueue row ∈ writes) : ∀ other ∈ rows.queue, other.key ≠ row.key := by
  cases pending with
  | enqueue absent open_ =>
    cases List.mem_singleton.mp written
    exact absent
  | _ => simp at written

theorem Pending.fresh (written : .decide d ∈ writes) : Fresh rows d := by
  cases pending with
  | decide fresh =>
    cases List.mem_singleton.mp written
    exact fresh
  | resolve fresh held =>
    rcases List.mem_cons.mp written with same | other
    · cases same
      exact fresh
    · simp at other
  | _ => simp at written

theorem Pending.held (written : .resolve key attempt lease decidedAt ∈ writes) :
    (∃ row ∈ rows.queue, row.heldBy key attempt lease = true) ∧
      ∃ d, .decide d ∈ writes ∧ d.idempotencyKey = key := by
  cases pending with
  | resolve fresh held =>
    rcases List.mem_cons.mp written with same | other
    · cases same
    · cases List.mem_singleton.mp other
      exact ⟨held, _, by simp, rfl⟩
  | _ => simp at written

end

end

/-! ## The tables -/

structure SoundTables (s : Tables) : Prop where
  keys : (s.rows.queue.map QueueRow.key).Nodup
  decided : ∀ d ∈ s.rows.decisions, d.settlementAllowed = false ∧ d.decision.terminal = true ∧
    ∃ row ∈ s.rows.queue, row.key = d.idempotencyKey ∧ row.resolved = true ∧
      row.attempts = d.attempt
  once : (s.rows.decisions.map ReconciliationResult.idempotencyKey).Nodup
  resolved : ∀ row ∈ s.rows.queue, row.resolved = true →
    ∃ d ∈ s.rows.decisions, d.idempotencyKey = row.key ∧ d.attempt = row.attempts
  pending : ∀ j session, s.sessions.get j = some session → Pending s.rows session.writes
  apart : ∀ j k first second, s.sessions.get j = some first → s.sessions.get k = some second →
    j ≠ k → Apart first.writes second.writes

section
variable {s : Tables} {i : Nat} {session : Session}

theorem soundTables_empty : SoundTables {} where
  keys := List.nodup_nil
  decided _ none_ := absurd none_ List.not_mem_nil
  once := List.nodup_nil
  resolved _ none_ := absurd none_ List.not_mem_nil
  pending _ _ found := absurd found nofun
  apart _ _ _ _ found := absurd found nofun

section
variable (sound : SoundTables s)
include sound

theorem SoundTables.close (i : Nat) : SoundTables (s.close i) where
  keys := sound.keys
  decided := sound.decided
  once := sound.once
  resolved := sound.resolved
  pending j session found := sound.pending j session (get_of_get_close found).2
  apart j k first second left right :=
    sound.apart j k first second (get_of_get_close left).2
      (get_of_get_close right).2

theorem SoundTables.put (pending : Pending s.rows session.writes)
    (apart : ∀ j other, s.sessions.get j = some other → j ≠ i → Apart session.writes other.writes) :
    SoundTables { s with sessions := s.sessions.put i session } where
  keys := sound.keys
  decided := sound.decided
  once := sound.once
  resolved := sound.resolved
  pending j found present := by
    rcases get_put_cases present with ⟨-, rfl⟩ | ⟨-, old⟩
    · exact pending
    · exact sound.pending j found old
  apart j k first second left right different := by
    rcases get_put_cases left with ⟨rfl, rfl⟩ | ⟨-, before⟩
    · rcases get_put_cases right with ⟨rfl, rfl⟩ | ⟨other, right⟩
      · exact absurd rfl different
      · exact apart k second right other
    rcases get_put_cases right with ⟨rfl, rfl⟩ | ⟨-, right⟩
    · exact (apart j first before different).symm
    · exact sound.apart j k first second before right different

theorem SoundTables.spoil (i : Nat) : SoundTables (s.spoil i) := by
  unfold Tables.spoil Sessions.spoil
  split
  · rename_i session found
    exact sound.put (sound.pending i session found) fun j other present different =>
      sound.apart i j session other found present different.symm
  · exact sound

theorem SoundTables.begin (i : Nat) : SoundTables { s with sessions := s.sessions.put i {} } :=
  sound.put .nothing fun _ other _ _ => apart_nil other.writes

end

/-! ### Updates outside of transactions -/

section
variable {condition : QueueRow → Bool} {change : QueueRow → QueueRow}

theorem key_of_mem_update (kept : ∀ row, (change row).key = row.key)
    (present : row ∈ updateWhere condition change queue) : ∃ old ∈ queue, old.key = row.key := by
  rcases mem_updateWhere.mp present with ⟨old, there, -, rfl⟩ | ⟨there, -⟩
  · exact ⟨old, there, (kept old).symm⟩
  · exact ⟨row, there, rfl⟩

/-- An update of rows that are unresolved, stay so and are not locked. -/
theorem SoundTables.update (sound : SoundTables s) (kept : ∀ row, (change row).key = row.key)
    (unresolved : ∀ row, condition row = true →
      row.resolved = false ∧ (change row).resolved = false)
    (free : ∀ row, condition row = true → s.held row.key = false) :
    SoundTables (s.setQueue (updateWhere condition change s.rows.queue)) where
  keys := nodup_map_updateWhere kept sound.keys
  decided d present := by
    obtain ⟨closed, terminal, row, there, key, resolved, attempt⟩ := sound.decided d present
    refine ⟨closed, terminal, row, mem_updateWhere.mpr (.inr ⟨there, ?_⟩), key, resolved, attempt⟩
    by_contra matched
    rw [(unresolved row (by simpa using matched)).1] at resolved
    cases resolved
  once := sound.once
  resolved row present resolved := by
    rcases mem_updateWhere.mp present with ⟨old, -, matched, rfl⟩ | ⟨there, -⟩
    · rw [(unresolved old matched).2] at resolved
      cases resolved
    · exact sound.resolved row there resolved
  pending j session found := by
    have pending := sound.pending j session found
    refine pending.of_rows ?_ (fun d written => (pending.fresh written).first) ?_
    · intro row written other present same
      obtain ⟨old, there, key⟩ := key_of_mem_update kept present
      exact pending.absent written old there (key.trans same)
    intro key attempt lease decidedAt written
    obtain ⟨⟨row, there, held⟩, -⟩ := pending.held written
    refine ⟨row, mem_updateWhere.mpr (.inr ⟨there, ?_⟩), held⟩
    by_contra matched
    have open_ := anywhere_eq_false.mp (free row (by simpa using matched)) j session found
    exact locks_eq_false.mp open_ key attempt lease decidedAt written (heldBy_iff.mp held).1.symm
  apart := sound.apart

end

section
variable (sound : SoundTables s)
include sound

theorem SoundTables.claimed (free : s.held key = false) (now leaseUntil : Time) (lease : String) :
    SoundTables (s.setQueue (updateWhere (QueueRow.claimable key now)
      (QueueRow.claimed leaseUntil lease) s.rows.queue)) := by
  refine sound.update (fun _ => rfl) (fun row matched => ?_) (fun row matched => ?_)
  · have open_ := (claimable_iff.mp matched).2.1
    exact ⟨open_, open_⟩
  · rw [(claimable_iff.mp matched).1]
    exact free

theorem SoundTables.rescheduled (free : s.held key = false)
    (attempts : Nat) (lease : String) (next : Time) (reason : String) :
    SoundTables (s.setQueue (updateWhere (QueueRow.heldBy key attempts lease)
      (QueueRow.rescheduled next reason) s.rows.queue)) := by
  refine sound.update (fun _ => rfl) (fun row matched => ?_) (fun row matched => ?_)
  · have open_ := (heldBy_iff.mp matched).2.2.2
    exact ⟨open_, open_⟩
  · rw [(heldBy_iff.mp matched).1]
    exact free

/-! ### Commits -/

theorem SoundTables.commit_enqueue (found : s.sessions.get i = some session)
    (writes : session.writes = [.enqueue row]) : SoundTables (s.commit i session) := by
  have mine := sound.pending i session found
  have visible : session.visible s.rows = { s.rows with queue := s.rows.queue ++ [row] } := by
    rw [Session.visible, writes]
    rfl
  have absent : ∀ other ∈ s.rows.queue, other.key ≠ row.key := mine.absent (by simp [writes])
  have open_ : row.resolved = false := by
    rw [writes] at mine
    cases mine
    assumption
  rw [Tables.commit, visible]
  refine ⟨?_, ?_, sound.once, ?_, ?_, ?_⟩
  · exact nodup_map_concat sound.keys absent
  · intro d present
    obtain ⟨closed, terminal, old, there, rest⟩ := sound.decided d present
    exact ⟨closed, terminal, old, by simp [there], rest⟩
  · intro other present resolved
    rcases List.mem_append.mp present with there | new
    · exact sound.resolved other there resolved
    · rw [List.mem_singleton.mp new, open_] at resolved
      cases resolved
  · intro j other listed
    obtain ⟨different, listed⟩ := get_of_get_close listed
    have pending := sound.pending j other listed
    refine pending.of_rows ?_ (fun d written => (pending.fresh written).first) ?_
    · intro theirs written old present
      rcases List.mem_append.mp present with there | new
      · exact pending.absent written old there
      rw [List.mem_singleton.mp new]
      exact (sound.apart i j session other found listed different.symm).queue row theirs
        (by simp [writes]) written
    intro key attempt lease decidedAt written
    obtain ⟨⟨held, there, holds⟩, -⟩ := pending.held written
    exact ⟨held, by simp [there], holds⟩
  · exact (sound.close i).apart

/-- A decision and the resolution of its row are committed together. -/
theorem SoundTables.commit_resolve (found : s.sessions.get i = some session)
    (writes : session.writes = [.decide d, .resolve d.idempotencyKey d.attempt lease decidedAt]) :
    SoundTables (s.commit i session) := by
  have mine := sound.pending i session found
  have fresh : Fresh s.rows d := mine.fresh (by simp [writes])
  have locking : Write.resolve d.idempotencyKey d.attempt lease decidedAt ∈ session.writes := by
    simp [writes]
  obtain ⟨⟨row, there, held⟩, -⟩ := mine.held locking
  obtain ⟨key, attempts, -, -⟩ := heldBy_iff.mp held
  have visible : session.visible s.rows =
      ⟨updateWhere (QueueRow.heldBy d.idempotencyKey d.attempt lease) (QueueRow.closed decidedAt)
        s.rows.queue, s.rows.decisions ++ [d]⟩ := by
    rw [Session.visible, writes]
    rfl
  -- The row that is resolved is the only one of its key.
  have rows : ∀ other, other ∈ updateWhere (QueueRow.heldBy d.idempotencyKey d.attempt lease)
      (QueueRow.closed decidedAt) s.rows.queue ↔
      other = row.closed decidedAt ∨ other ∈ s.rows.queue ∧ other.key ≠ row.key := fun other =>
    mem_updateWhere_of_unique sound.keys there held fun same matched =>
      (heldBy_iff.mp matched).1.trans key.symm
  rw [Tables.commit, visible]
  refine ⟨?_, ?_, ?_, ?_, ?_, ?_⟩
  · exact nodup_map_updateWhere (closed_key decidedAt) sound.keys
  · intro e present
    rcases mem_concat.mp present with old | rfl
    · obtain ⟨closed, terminal, theirs, listed, same, rest⟩ := sound.decided e old
      refine ⟨closed, terminal, theirs, (rows theirs).mpr (.inr ⟨listed, ?_⟩), same, rest⟩
      rw [same, key]
      exact fresh.first e old
    · exact ⟨fresh.closed, fresh.terminal, _, (rows _).mpr (.inl rfl), key, rfl, attempts⟩
  · exact nodup_map_concat sound.once fresh.first
  · intro other present resolved
    rcases (rows other).mp present with rfl | ⟨old, -⟩
    · exact ⟨d, List.mem_append_right _ (List.mem_singleton_self d), key.symm, attempts.symm⟩
    · obtain ⟨e, listed, rest⟩ := sound.resolved other old resolved
      exact ⟨e, by simp [listed], rest⟩
  · intro j other listed
    obtain ⟨different, listed⟩ := get_of_get_close listed
    have pending := sound.pending j other listed
    have apart := sound.apart i j session other found listed different.symm
    have decided : Write.decide d ∈ session.writes := by simp [writes]
    refine pending.of_rows ?_ ?_ ?_
    · intro theirs written changed present same
      obtain ⟨old, before, unchanged⟩ := key_of_mem_update (closed_key decidedAt) present
      exact pending.absent written old before (unchanged.trans same)
    · intro theirs written e present
      rcases List.mem_append.mp present with old | new
      · exact (pending.fresh written).first e old
      · rw [List.mem_singleton.mp new]
        exact apart.decisions d theirs decided written
    intro theirKey attempt theirLease theirTime written
    obtain ⟨⟨theirs, before, holds⟩, e, decides, same⟩ := pending.held written
    refine ⟨theirs, (rows theirs).mpr (.inr ⟨before, ?_⟩), holds⟩
    rw [(heldBy_iff.mp holds).1, ← same, key]
    exact (apart.decisions d e decided decides).symm
  · exact (sound.close i).apart

end

end

/-! ## Transactions and their callers -/

/-- What a caller's transaction has written, by how far it is. -/
def Fits (rows : Rows) (writes : List Write) : Phase → Prop
  | .outside => True
  | .begun => writes = []
  | .enqueuing => writes = [] ∨ ∃ row, writes = [.enqueue row]
  | .refused _ => writes = []
  | .staged result => writes = [.decide result.stored]
  | .repeated result => writes = [] ∧ ∃ d ∈ rows.decisions, d.idempotencyKey = result.idempotencyKey
  | .missed result => writes = [] ∨ writes = [.decide result.stored]
  | .settled result => ∃ lease decidedAt, writes =
      [.decide result.stored, .resolve result.idempotencyKey result.attempt lease decidedAt]
  | .confirmed _ => writes = []

theorem Fits.mono (fits : Fits rows writes phase) (grown : rows.decisions ⊆ later.decisions) :
    Fits later writes phase := by
  cases phase with
  | repeated result =>
    obtain ⟨nothing, d, present, same⟩ := fits
    exact ⟨nothing, d, grown present, same⟩
  | _ => exact fits

section
variable {s : Tables} {i : Nat} {call : StoreCall} {phase : Phase} {session : Session}

theorem visible_of_nil (writes : session.writes = []) : session.visible rows = rows := by
  rw [Session.visible, writes]
  rfl

variable {d : ReconciliationResult}

theorem visible_of_decide (writes : session.writes = [.decide d]) :
    session.visible rows = { rows with decisions := rows.decisions ++ [d] } := by
  rw [Session.visible, writes]
  rfl

theorem decisions_subset_visible (session : Session) (rows : Rows) :
    rows.decisions ⊆ (session.visible rows).decisions := by
  have step : ∀ (writes : List Write) (rows : Rows),
      rows.decisions ⊆ (writes.foldl Write.apply rows).decisions := by
    intro writes
    induction writes with
    | nil => exact fun rows => List.Subset.refl _
    | cons write writes ih =>
      intro rows
      refine List.Subset.trans ?_ (ih (write.apply rows))
      cases write with
      | decide d => exact List.subset_append_left _ _
      | _ => exact List.Subset.refl _
  exact step session.writes rows

/-- Decisions are never lost, and other transactions left alone. -/
theorem StoreEffect.frame (effect : StoreEffect s i call answer after) :
    s.rows.decisions ⊆ after.rows.decisions ∧
      ∀ j, j ≠ i → after.sessions.get j = s.sessions.get j := by
  cases effect with
  | idle told => exact ⟨List.Subset.refl _, fun _ _ => rfl⟩
  | spoils told => exact ⟨List.Subset.refl _, fun _ other => get_spoil_of_ne other⟩
  | closes told => exact ⟨List.Subset.refl _, fun _ other => get_close_of_ne other⟩
  | begins => exact ⟨List.Subset.refl _, fun _ other => get_put_of_ne other⟩
  | enqueues | decides | resolves =>
    exact ⟨List.Subset.refl _, fun _ other => get_put_of_ne other⟩
  | commits open_ => exact ⟨decisions_subset_visible _ _, fun _ other => get_close_of_ne other⟩
  | _ => exact ⟨List.Subset.refl _, fun _ _ => rfl⟩

theorem get_write (present : (s.write i session write).sessions.get i = some found) :
    found.writes = session.writes ++ [write] := by
  rw [Tables.write, get_put_self] at present
  rw [← Option.some.inj present]

section
variable (sound : SoundTables s)
include sound

theorem SoundTables.write {write : Write}
    (all : session.writes ++ [write] = writes) (pending : Pending s.rows writes)
    (apart : ∀ j other, s.sessions.get j = some other → j ≠ i → Apart writes other.writes) :
    SoundTables (s.write i session write) := by
  subst all
  exact sound.put pending apart

theorem SoundTables.enqueued (writes : session.writes = [])
    (alone : s.sessions.elsewhere i (Session.enqueues state.intent.idempotencyKey) = false)
    (absent : Tables.row? (session.visible s.rows) state.intent.idempotencyKey = none) :
    SoundTables (s.write i session (.enqueue (.new state digest due))) := by
  rw [visible_of_nil writes] at absent
  refine sound.write (by rw [writes, List.nil_append]) (.enqueue ?_ rfl) ?_
  · intro other present
    have different := List.find?_eq_none.mp absent other present
    rw [decide_eq_true_eq] at different
    exact different
  intro j other found different
  have none_ := elsewhere_eq_false.mp alone j other found different
  refine ⟨?_, ?_⟩
  · intro row theirs written theirWrite
    cases List.mem_singleton.mp written
    exact (enqueues_eq_false none_ theirWrite).symm
  · intro d theirs written
    cases List.mem_singleton.mp written

theorem SoundTables.staged
    (writes : session.writes = []) (terminal : result.decision.terminal = true)
    (alone : s.sessions.elsewhere i (Session.decides result) = false)
    (fresh : (session.visible s.rows).decisions.any (·.clashes result) = false) :
    SoundTables (s.write i session (.decide result.stored)) := by
  rw [visible_of_nil writes] at fresh
  have first : Fresh s.rows result.stored := by
    refine ⟨rfl, terminal, fun other present => ?_⟩
    have apart : other.clashes result = false := by
      simpa using List.any_eq_false.mp fresh other present
    exact key_ne_of_clashes apart (sound.decided other present).2.1 terminal
  refine sound.write (by rw [writes, List.nil_append]) (.decide first) ?_
  intro j other found different
  have none_ := elsewhere_eq_false.mp alone j other found different
  refine ⟨?_, ?_⟩
  · intro row theirs written
    cases List.mem_singleton.mp written
  intro d theirs written theirWrite
  cases List.mem_singleton.mp written
  exact (key_ne_of_clashes (decides_eq_false none_ theirWrite)
    ((sound.pending j other found).fresh theirWrite).terminal terminal).symm

theorem SoundTables.locking (found : s.sessions.get i = some session)
    (writes : session.writes = [.decide d])
    (held : ∃ row ∈ s.rows.queue, row.heldBy d.idempotencyKey d.attempt lease = true) :
    SoundTables (s.write i session (.resolve d.idempotencyKey d.attempt lease decidedAt)) := by
  have fresh : Fresh s.rows d := (sound.pending i session found).fresh (by simp [writes])
  refine sound.write (by rw [writes, List.singleton_append]) (.resolve fresh held) ?_
  intro j other listed different
  have apart := sound.apart i j session other found listed different.symm
  refine ⟨?_, ?_⟩
  · intro row theirs written
    simp at written
  intro e theirs written
  refine apart.decisions e theirs ?_
  simpa [writes] using written

theorem SoundTables.row_unique (left : first ∈ s.rows.queue)
    (right : second ∈ s.rows.queue) (same : first.key = second.key) : first = second :=
  List.inj_on_of_nodup_map sound.keys left right same

theorem SoundTables.resolved_of_decided (decided : d ∈ s.rows.decisions)
    (present : row ∈ s.rows.queue) (same : row.key = d.idempotencyKey) :
    row.resolved = true ∧ row.attempts = d.attempt := by
  obtain ⟨-, -, other, there, key, resolved, attempts⟩ := sound.decided d decided
  rw [sound.row_unique present there (same.trans key.symm)]
  exact ⟨resolved, attempts⟩

section
variable (found : s.sessions.get i = some session) (fits : Fits s.rows session.writes phase)
include found fits

/-- A worker that finds the row held by its lease has just inserted the decision: one that
was there before would have resolved the row. -/
theorem SoundTables.resolves (permitted : phase.permits (.resolveRow key attempt lease decidedAt))
    (held : (session.visible s.rows).queue.any (QueueRow.heldBy key attempt lease) = true) :
    SoundTables (s.write i session (.resolve key attempt lease decidedAt)) ∧
      ∀ later, (s.write i session (.resolve key attempt lease decidedAt)).sessions.get i =
        some later → Fits s.rows later.writes (phase.resolving 1) := by
  obtain ⟨result, phases, rfl, rfl⟩ := permitted
  obtain ⟨row, there, holds⟩ := List.any_eq_true.mp held
  rcases phases with rfl | rfl
  · have writes : session.writes = [.decide result.stored] := fits
    rw [visible_of_decide writes] at there
    refine ⟨sound.locking (d := result.stored) found writes ⟨row, there, holds⟩, fun later present => ?_⟩
    exact ⟨lease, decidedAt, by rw [get_write present, writes, List.singleton_append]⟩
  obtain ⟨writes, d, decided, same⟩ := fits
  rw [visible_of_nil writes] at there
  obtain ⟨key, -, -, open_⟩ := heldBy_iff.mp holds
  rw [(sound.resolved_of_decided decided there (key.trans same.symm)).1] at open_
  cases open_

/-- A worker that finds the row resolved with its own evidence has inserted nothing: the
decision that resolved the row would have kept its own out. -/
theorem SoundTables.confirms (permitted : phase.permits (.selectResolution key attempt))
    (seen : Tables.row? (session.visible s.rows) key = some row) :
    Fits s.rows session.writes (phase.confirming row.resolvedAt digest) := by
  obtain ⟨result, rfl, rfl, rfl⟩ := permitted
  rw [Phase.confirming]
  split
  · trivial
  rename_i both
  rcases fits with nothing | writes
  · exact nothing
  rw [visible_of_decide writes] at seen
  have there : row ∈ s.rows.queue := List.mem_of_find?_eq_some seen
  have key : row.key = result.idempotencyKey := by simpa using List.find?_some seen
  have resolved : row.resolved = true :=
    Option.isSome_iff_ne_none.mpr (not_or.mp both).1
  obtain ⟨d, decided, same, -⟩ := sound.resolved row there resolved
  have fresh := (sound.pending i session found).fresh (d := result.stored) (by simp [writes])
  exact absurd (same.trans key) (fresh.first d decided)

end

end

/-- A worker whose decision was refused, and who finds its own evidence, finds a decision of
its key. -/
theorem Fits.finds (fits : Fits s.rows session.writes phase)
    (permitted : phase.permits (.selectDigest key attempt))
    (seen : Tables.decision? (session.visible s.rows) key attempt = some d) :
    Fits s.rows session.writes (phase.comparing d.evidenceDigest) := by
  obtain ⟨result, rfl, rfl, rfl⟩ := permitted
  have writes : session.writes = [] := fits
  rw [visible_of_nil writes] at seen
  have same := List.find?_some seen
  rw [Bool.and_eq_true, decide_eq_true_eq] at same
  rw [Phase.comparing]
  split
  · exact ⟨writes, d, List.mem_of_find?_eq_some seen, same.1⟩
  · trivial

theorem SoundTables.commits (sound : SoundTables s) (found : s.sessions.get i = some session)
    (fits : Fits s.rows session.writes phase) (permitted : phase.permits .commit) :
    SoundTables (s.commit i session) := by
  have unchanged (writes : session.writes = []) : SoundTables (s.commit i session) := by
    rw [Tables.commit, visible_of_nil writes]
    exact sound.close i
  rcases permitted with rfl | ⟨result, rfl | rfl⟩
  · rcases fits with nothing | ⟨row, writes⟩
    · exact unchanged nothing
    · exact sound.commit_enqueue found writes
  · obtain ⟨lease, decidedAt, writes⟩ := fits
    exact sound.commit_resolve found writes
  · exact unchanged fits

/-- What a permitted call leaves, if it records a terminal decision or none. -/
theorem StoreEffect.keeps (effect : StoreEffect s i call answer after) (sound : SoundTables s)
    (fits : ∀ session, s.sessions.get i = some session → Fits s.rows session.writes phase)
    (permitted : phase.permits call)
    (terminal : ∀ result, call = .insertDecision result → result.decision.terminal = true) :
    SoundTables after ∧ ∀ session, after.sessions.get i = some session →
      Fits after.rows session.writes (phase.after ⟨call, answer⟩) := by
  cases effect with
  | idle told => exact ⟨sound, fun _ _ => (told phase {}).1.symm ▸ trivial⟩
  | spoils told => exact ⟨sound.spoil i, fun _ _ => (told phase {}).1.symm ▸ trivial⟩
  | closes told => exact ⟨sound.close i, fun _ _ => (told phase {}).1.symm ▸ trivial⟩
  | begins =>
    refine ⟨sound.begin i, fun session found => ?_⟩
    rw [← Option.some.inj (get_put_self.symm.trans found)]
    exact rfl
  | @enqueues session state digest due open_ alone absent =>
    cases permitted
    have writes : session.writes = [] := fits session (get_of_live open_)
    refine ⟨sound.enqueued writes alone absent, fun later found =>
      .inr ⟨.new state digest due, ?_⟩⟩
    rw [get_write found, writes, List.nil_append]
  | present =>
    cases permitted
    exact ⟨sound, fun session found => .inl (fits session found)⟩
  | binds => exact ⟨sound, fits⟩
  | @claims key now row answer leaseUntil lease free found told =>
    have outside : phase.after ⟨.claimRow key now leaseUntil lease, answer⟩ = .outside := by
      cases answer <;> rfl
    exact ⟨sound.claimed free now leaseUntil lease, fun _ _ => outside.symm ▸ trivial⟩
  | @reschedules key answer attempts lease next reason free told =>
    have outside : phase.after ⟨.rescheduleRow key attempts lease next reason, answer⟩ =
        .outside := by
      cases answer <;> rfl
    exact ⟨sound.rescheduled free attempts lease next reason, fun _ _ => outside.symm ▸ trivial⟩
  | @decides session result open_ alone fresh =>
    cases permitted
    have writes : session.writes = [] := fits session (get_of_live open_)
    refine ⟨sound.staged writes (terminal result rfl) alone fresh, fun later found => ?_⟩
    show later.writes = _
    rw [get_write found, writes, List.nil_append]
  | refuses =>
    cases permitted
    exact ⟨sound, fits⟩
  | @finds session key attempt d open_ found =>
    refine ⟨sound, fun later present => ?_⟩
    obtain rfl : session = later := Option.some.inj ((get_of_live open_).symm.trans present)
    exact (fits session present).finds permitted found
  | @resolves session key attempt lease decidedAt open_ found =>
    exact sound.resolves (get_of_live open_) (fits session (get_of_live open_)) permitted found
  | misses =>
    refine ⟨sound, fun session found => ?_⟩
    obtain ⟨result, rfl | rfl, -⟩ := permitted
    · exact .inr (fits session found)
    · exact .inl (fits session found).1
  | @confirms session key row attempt d open_ found =>
    refine ⟨sound, fun later present => ?_⟩
    obtain rfl : session = later := Option.some.inj ((get_of_live open_).symm.trans present)
    exact sound.confirms present (fits session present) permitted found
  | @commits session answer open_ =>
    refine ⟨sound.commits (get_of_live open_) (fits session (get_of_live open_)) permitted,
      fun later present => ?_⟩
    rw [Tables.commit, get_close_self] at present
    cases present

end

/-! ## Runs -/

structure TablesKept (config : StoreConfig) : Prop where
  sound : SoundTables config.shared
  fits : ∀ (i : Nat) (thread : StoreThread), config.threads[i]? = some thread →
    ∀ session, config.shared.sessions.get i = some session →
      Fits config.shared.rows session.writes (seenIn thread.past).phase

theorem tablesKept_empty : TablesKept emptyStore where
  sound := soundTables_empty
  fits _ _ present := absurd present (by simp [emptyStore])

theorem seenIn_snoc (past : List (Event storeCalls)) (event : Event storeCalls) :
    seenIn (past ++ [event]) = (seenIn past).after event := by
  rw [seenIn, List.foldl_append]
  rfl

def Answering (config : StoreConfig) (action : Action StoreJob StoreChoice Disconnect) (i : Nat)
    (label : StoreJob) (past : List (Event storeCalls)) (call : StoreCall) : Prop :=
  (∃ choice, action = .exec i choice) ∧
    ∃ next, config.threads[i]? = some ⟨label, past, .call call next⟩

section
variable [CaseTables] {config : StoreConfig} {action : Action StoreJob StoreChoice Disconnect}

theorem permitted_of_reaches (reached : reconcilers.Reaches emptyStore config) {i : Nat}
    (active : config.threads[i]? = some ⟨label, past, .call call next⟩) :
    (seenIn past).phase.permits call ∧ label.permits (seenIn past).facts call :=
  (standing_of_reaches reached (List.mem_of_getElem? active)).2.1

theorem TablesKept.step (kept : TablesKept config) (reached : reconcilers.Reaches emptyStore config)
    (taken : reconcilers.next config action = some later)
    (terminal : ∀ i label past result, Answering config action i label past (.insertDecision result) →
      result.decision.terminal = true) : TablesKept later := by
  obtain ⟨s, threads⟩ := config
  cases action with
  | spawn job =>
    obtain ⟨program, -, rfl⟩ := Machine.next_spawn taken
    refine ⟨kept.sound, fun i thread present session found => ?_⟩
    rcases getElem?_concat_cases present with ⟨-, rfl⟩ | old
    · trivial
    · exact kept.fits i thread old session found
  | env event =>
    obtain ⟨shared, changed, rfl⟩ := Machine.next_env taken
    obtain rfl : s.close event.thread = shared := Option.some.inj changed
    refine ⟨kept.sound.close _, fun i thread present session found => ?_⟩
    exact kept.fits i thread present session (get_of_get_close found).2
  | exec i choice =>
    obtain ⟨label, past, call, next, answer, after, active, done, rfl⟩ := Machine.next_exec taken
    have effect : StoreEffect s i call answer after := effect_of_exec done
    obtain ⟨grown, others⟩ := effect.frame
    have mine := effect.keeps kept.sound (kept.fits i _ active)
      (permitted_of_reaches reached active).1 fun result same => by
        subst same
        exact terminal i label past result ⟨⟨choice, rfl⟩, next, active⟩
    refine ⟨mine.1, fun j thread present session found => ?_⟩
    rcases getElem?_set_cases present with ⟨rfl, rfl⟩ | ⟨other, old⟩
    · rw [seenIn_snoc]
      exact mine.2 session found
    · rw [others j other] at found
      exact (kept.fits j thread old session found).mono grown

end

end UmojaFlowOS.Multirail
