import UmojaFlowOS.Settlement.OutboxWorker

/-!
# The outbox table under concurrent transactions

What a call of a worker may do to the outbox, and what stays true of its rows and
of the leases granted on them, as long as every transaction writes at most once
and only what is due when it is written.
-/

namespace UmojaFlowOS.Settlement.Outbox

open Interaction Relational

/-! ## What a call does to the state -/

section
variable {s : OutboxState} {i : Nat} {session : Session} {key : String × String}

theorem notMem_locks_of_free (free : s.lockedElsewhere i key = false)
    (open_ : s.session j = some session) (other : j ≠ i) : key ∉ session.locks := by
  simpa using Sessions.elsewhere_eq_false.mp free j session open_ other

end

/-- The write of a claim or of a marking, when it is made: the rows it is to
change are there, as the statement requires, and free. -/
def Fits (s : OutboxState) (i : Nat) (session : Session) : Write → Prop
  | .lease keys _ now _ => keys.Nodup ∧ ∀ key ∈ keys, s.lockedElsewhere i key = false ∧
      ∃ entry ∈ session.visible s.rows, entry.key = key ∧ entry.publishedAt = none ∧
        entry.leasedUntil.all (· < now) = true
  | .publish key _ _ => s.lockedElsewhere i key = false ∧
      ∃ entry ∈ session.visible s.rows, entry.key = key

inductive Writes : Call → Write → Prop
  | claim (tenantID : String) (now : Time) (limit : Int) (owner : String) (leasedUntil : Time)
      (keys : List (String × String)) :
      Writes (.run (.claim tenantID now limit owner leasedUntil)) (.lease keys owner now leasedUntil)
  | mark (now : Time) (tenantID eventID owner : String) :
      Writes (.run (.mark now tenantID eventID owner)) (.publish (tenantID, eventID) owner now)

/-- What a call of thread `i` may do to the state. -/
inductive Stepped (s : OutboxState) (i : Nat) : Call → OutboxState → Prop
  | same (call : Call) : Stepped s i call s
  | ticked (time : Time) (later : s.clock ≤ time) : Stepped s i .now { s with clock := time }
  | closed (call : Call) : Stepped s i call (s.close i)
  | opened (tenantID : String) :
      Stepped s i (.run (.beginTx tenantID)) (s.put i { tenantID := tenantID })
  | failed (statement : Statement) (session : Session) (found : s.session i = some session) :
      Stepped s i (.run statement) (s.put i { session with failed := true })
  | wrote (call : Call) (session : Session) (write : Write) (writes : Writes call write)
      (found : s.session i = some session) (fits : Fits s i session write) :
      Stepped s i call (s.put i { session with writes := session.writes ++ [write] })
  | committed (session : Session) (found : s.session i = some session) :
      Stepped s i (.run .commit) (s.commit i session)

variable {owner : String}

theorem fits_lease (picked : picksOldest (s.eligible i session tenantID now) limit keys = true) :
    Fits s i session (.lease keys owner now leasedUntil) := by
  simp only [picksOldest, Bool.and_eq_true, decide_eq_true_eq, List.all_eq_true] at picked
  obtain ⟨⟨⟨unique, -⟩, present⟩, -⟩ := picked
  refine ⟨unique, fun key chosen => ?_⟩
  have found := present key chosen
  simp only [List.any_eq_true, decide_eq_true_eq] at found
  obtain ⟨entry, eligible, rfl⟩ := found
  simp only [OutboxState.eligible, List.mem_filter, Bool.and_eq_true, Bool.not_eq_true',
    Entry.claimable, Option.isNone_iff_eq_none] at eligible
  exact ⟨eligible.2.2, entry, eligible.1, rfl, eligible.2.1.1.1.1.2, eligible.2.1.1.2⟩

theorem fits_publish
    (free : (s.markable session key owner).all (fun entry => !s.lockedElsewhere i entry.key) = true)
    (matched : s.markable session key owner ≠ []) : Fits s i session (.publish key owner now) := by
  obtain ⟨entry, present⟩ := List.exists_mem_of_ne_nil _ matched
  have unlocked := List.all_eq_true.mp free entry present
  simp only [OutboxState.markable, List.mem_filter, Entry.markable, Bool.and_eq_true,
    decide_eq_true_eq] at present
  obtain ⟨visible, ⟨⟨rfl, -⟩, -⟩, -⟩ := present
  exact ⟨by simpa using unlocked, entry, visible, rfl⟩

/-- Inversion of one call. -/
theorem stepped_of_exec {s after : OutboxState} {i : Nat} {call : Call}
    {choice : Choice} {answer : call.Answer}
    (done : s.exec render i call choice = some (answer, after)) : Stepped s i call after := by
  unfold OutboxState.exec at done
  split at done
  · split at done
    · cases done
      exact .ticked _ ‹_›
    · cases done
  · cases done
    exact .same _
  · cases done
    exact .closed _
  · cases done
    exact .opened _
  · obtain ⟨session, found, done⟩ := Option.bind_eq_some_iff.mp done
    dsimp only at done
    split at done
    · cases done
      exact .wrote _ session _ (.claim ..) found (fits_lease ‹_ ∧ _›.2)
    · cases done
  · obtain ⟨session, found, done⟩ := Option.bind_eq_some_iff.mp done
    dsimp only at done
    split at done
    · rename_i checked
      cases done
      split
      · exact .same _
      · exact .wrote _ session _ (.mark ..) found (fits_publish checked.2 ‹_›)
    · cases done
  · obtain ⟨session, found, done⟩ := Option.bind_eq_some_iff.mp done
    split at done
    · cases done
      exact .committed session found
    · cases done
  · obtain ⟨session, found, done⟩ := Option.bind_eq_some_iff.mp done
    split at done
    · cases done
      exact .committed session found
    · cases done
  · cases done
    exact .closed _
  · cases done
    split
    · exact .failed _ _ ‹_›
    · exact .same _
  · cases done

/-! ## The rows through a transaction -/

/-- A row with its later state: an event is never lost or changed, and the time of
its publication stays once it is set. -/
def Keeps (entry later : Entry) : Prop :=
  later.row = entry.row ∧ later.createdAt = entry.createdAt ∧
    ∀ time, entry.publishedAt = some time → later.publishedAt = some time

theorem Keeps.refl (entry : Entry) : Keeps entry entry := ⟨rfl, rfl, fun _ set_ => set_⟩

variable {entry : Entry}

theorem Keeps.trans (first : Keeps entry middle)
    (second : Keeps middle later) : Keeps entry later :=
  ⟨second.1.trans first.1, second.2.1.trans first.2.1,
    fun time set_ => second.2.2 time (first.2.2 time set_)⟩

theorem Keeps.key (keeps : Keeps entry later) : later.key = entry.key := by
  rw [Entry.key, keeps.1, Entry.key]

def Write.change (write : Write) (entry : Entry) : Entry :=
  match write with
  | .lease keys owner _ leasedUntil =>
    if keys.contains entry.key then entry.leased owner leasedUntil else entry
  | .publish key owner now => if entry.markable key owner then entry.marked now else entry

theorem Write.apply_eq_map (rows : List Entry) (write : Write) :
    write.apply rows = rows.map write.change := by
  cases write <;> rfl

theorem Write.keeps (write : Write) (entry : Entry) : Keeps entry (write.change entry) := by
  cases write with
  | lease keys owner now leasedUntil =>
    simp only [change]
    split
    · exact ⟨rfl, rfl, fun _ set_ => set_⟩
    · exact .refl entry
  | publish key owner now =>
    simp only [change]
    split
    · rename_i unset
      refine ⟨rfl, rfl, fun time set_ => ?_⟩
      simp [Entry.markable, set_] at unset
    · exact .refl entry

theorem Write.change_of_free {write : Write} (free : entry.key ∉ write.locks) :
    write.change entry = entry := by
  cases write with
  | lease keys owner now leasedUntil =>
    rw [change, if_neg]
    simpa [locks] using free
  | publish key owner now =>
    rw [change, if_neg]
    have other : entry.key ≠ key := by simpa [locks] using free
    simp [Entry.markable, other]

section
variable (session : Session)

def Session.change (entry : Entry) : Entry :=
  session.writes.foldl (fun entry write => write.change entry) entry

theorem Session.visible_eq_map (rows : List Entry) :
    session.visible rows = rows.map session.change := by
  unfold visible change
  induction session.writes generalizing rows with
  | nil => simp
  | cons write writes ih =>
    rw [List.foldl_cons, ih, Write.apply_eq_map, List.map_map]
    rfl

theorem Session.keeps (entry : Entry) : Keeps entry (session.change entry) := by
  unfold change
  induction session.writes generalizing entry with
  | nil => exact .refl entry
  | cons write writes ih => exact (write.keeps entry).trans (ih (write.change entry))

end

theorem Session.change_of_free {session : Session}
    (free : entry.key ∉ session.locks) : session.change entry = entry := by
  unfold locks at free
  unfold change
  generalize session.writes = writes at free ⊢
  induction writes with
  | nil => rfl
  | cons write writes ih =>
    rw [List.flatMap_cons, List.mem_append, not_or] at free
    rw [List.foldl_cons, Write.change_of_free free.1, ih free.2]

/-! ## The invariant of the table -/

/-- A row marked as published was announced; the lease of an unpublished row is the last granted
on it; of two leases of a row the earlier ended before the later began. -/
structure Orderly (announced : OutboxRow → Prop) (rows : List Entry) (clock : Time)
    (leases : List Lease) : Prop where
  keys : (rows.map Entry.key).Nodup
  published : ∀ entry ∈ rows, entry.publishedAt ≠ none → announced entry.row
  leased : ∀ entry ∈ rows, entry.publishedAt = none → ∀ time, entry.leasedUntil = some time →
    ∃ lease ∈ leases, lease.key = entry.key ∧ lease.until_ = time
  covered : ∀ lease ∈ leases, lease.at_ ≤ clock ∧ ∃ entry ∈ rows, entry.key = lease.key ∧
    (entry.publishedAt = none → ∃ time, entry.leasedUntil = some time ∧ lease.until_ ≤ time)
  spaced : leases.Pairwise fun earlier later => earlier.key = later.key → earlier.until_ < later.at_

/-- A write that may be applied: the rows of a claim are still unpublished and
their leases over, the row to be marked was announced. -/
def Due (announced : OutboxRow → Prop) (rows : List Entry) (clock : Time) : Write → Prop
  | .lease keys _ now leasedUntil => now ≤ clock ∧ now < leasedUntil ∧ keys.Nodup ∧
      ∀ key ∈ keys, ∃ entry ∈ rows, entry.key = key ∧ entry.publishedAt = none ∧
        entry.leasedUntil.all (· < now) = true
  | .publish key _ _ => ∃ entry ∈ rows, entry.key = key ∧ announced entry.row

section
variable {announced later : OutboxRow → Prop} {rows : List Entry} {clock : Time}
  {leases : List Lease}

theorem map_key_change (rows : List Entry) (write : Write) :
    (rows.map write.change).map Entry.key = rows.map Entry.key := by
  rw [List.map_map]
  exact List.map_congr_left fun entry _ => (write.keeps entry).key

section
variable (orderly : Orderly announced rows clock leases)
include orderly

/-- A claim that commits: the old leases of its rows had ended before it read the clock. -/
theorem Orderly.lease {keys : List (String × String)}
    (due : Due announced rows clock (.lease keys owner now leasedUntil)) :
    Orderly announced (rows.map (Write.lease keys owner now leasedUntil).change) clock
      (leases ++ (Write.lease keys owner now leasedUntil).grants) := by
  obtain ⟨read, positive, unique, unleased⟩ := due
  -- a lease granted before on one of the claimed rows ended before `now`
  have lapsed : ∀ lease ∈ leases, lease.key ∈ keys → lease.until_ < now := by
    intro lease granted chosen
    obtain ⟨entry, present, key, unpublished, expired⟩ := unleased lease.key chosen
    obtain ⟨-, other, there, sameKey, last⟩ := orderly.covered lease granted
    obtain rfl := List.inj_on_of_nodup_map orderly.keys there present (sameKey.trans key.symm)
    obtain ⟨time, leased, ends⟩ := last unpublished
    rw [leased] at expired
    exact lt_of_le_of_lt ends (by simpa using expired)
  have chosen : ∀ entry : Entry, entry.key ∈ keys →
      (Write.lease keys owner now leasedUntil).change entry = entry.leased owner leasedUntil := by
    intro entry claimed
    rw [Write.change, if_pos (List.contains_iff_mem.mpr claimed)]
  have others : ∀ entry : Entry, entry.key ∉ keys →
      (Write.lease keys owner now leasedUntil).change entry = entry :=
    fun entry free => Write.change_of_free free
  refine ⟨(map_key_change rows _).symm ▸ orderly.keys, ?_, ?_, ?_, ?_⟩
  · intro changed there published
    obtain ⟨entry, present, rfl⟩ := List.mem_map.mp there
    by_cases claimed : entry.key ∈ keys
    · rw [chosen entry claimed] at published ⊢
      exact orderly.published entry present published
    · rw [others entry claimed] at published ⊢
      exact orderly.published entry present published
  · intro changed there unpublished time until_
    obtain ⟨entry, present, rfl⟩ := List.mem_map.mp there
    by_cases claimed : entry.key ∈ keys
    · rw [chosen entry claimed] at until_ ⊢
      exact ⟨⟨entry.key, owner, now, leasedUntil⟩,
        List.mem_append_right _ (List.mem_map.mpr ⟨entry.key, claimed, rfl⟩), rfl,
        Option.some.inj until_⟩
    rw [others entry claimed] at unpublished until_ ⊢
    obtain ⟨lease, granted, key, ends⟩ := orderly.leased entry present unpublished time until_
    exact ⟨lease, by simp [granted], key, ends⟩
  · intro lease granted
    rcases List.mem_append.mp granted with old | new
    · obtain ⟨taken, entry, present, key, last⟩ := orderly.covered lease old
      refine ⟨taken, _, List.mem_map_of_mem present, (Write.keeps _ entry).key.trans key, ?_⟩
      by_cases claimed : entry.key ∈ keys
      · rw [chosen entry claimed]
        intro _
        have ended := lapsed lease old (key ▸ claimed)
        exact ⟨leasedUntil, rfl, (ended.trans positive).le⟩
      · rw [others entry claimed]
        exact last
    obtain ⟨key, claimed, rfl⟩ := List.mem_map.mp new
    obtain ⟨entry, present, rfl, -, -⟩ := unleased key claimed
    refine ⟨read, _, List.mem_map_of_mem present, (Write.keeps _ entry).key, ?_⟩
    rw [chosen entry claimed]
    exact fun _ => ⟨leasedUntil, rfl, le_rfl⟩
  rw [List.pairwise_append]
  refine ⟨orderly.spaced, ?_, ?_⟩
  · refine List.pairwise_map.mpr (unique.imp fun {first second} different same => ?_)
    exact absurd same different
  intro earlier old new added same
  obtain ⟨key, claimed, rfl⟩ := List.mem_map.mp added
  exact lapsed earlier old (same ▸ claimed)

theorem Orderly.publish (due : Due announced rows clock (.publish key owner now)) :
    Orderly announced (rows.map (Write.publish key owner now).change) clock leases := by
  obtain ⟨target, known, sameKey, delivered⟩ := due
  refine ⟨(map_key_change rows _).symm ▸ orderly.keys, ?_, ?_, ?_, orderly.spaced⟩
  · intro changed there published
    obtain ⟨entry, present, rfl⟩ := List.mem_map.mp there
    rw [(Write.keeps _ entry).1]
    by_cases marked : entry.key = key
    · rwa [List.inj_on_of_nodup_map orderly.keys present known (marked.trans sameKey.symm)]
    · rw [Write.change_of_free (by simpa [Write.locks] using marked)] at published
      exact orderly.published entry present published
  · intro changed there unpublished time until_
    obtain ⟨entry, present, rfl⟩ := List.mem_map.mp there
    rw [Write.change] at unpublished until_ ⊢
    split at unpublished
    · cases unpublished
    rename_i unmarked
    rw [if_neg unmarked] at until_ ⊢
    exact orderly.leased entry present unpublished time until_
  intro lease granted
  obtain ⟨taken, entry, present, sameKey, last⟩ := orderly.covered lease granted
  refine ⟨taken, _, List.mem_map_of_mem present, (Write.keeps _ entry).key.trans sameKey, ?_⟩
  rw [Write.change]
  split
  · intro unpublished
    cases unpublished
  · exact last

theorem Orderly.write {write : Write} (due : Due announced rows clock write) :
    Orderly announced (rows.map write.change) clock (leases ++ write.grants) := by
  cases write with
  | lease keys owner now leasedUntil => exact orderly.lease due
  | publish key owner now =>
    rw [Write.grants, List.append_nil]
    exact orderly.publish due

theorem Orderly.insert (fresh : ∀ entry ∈ rows, entry.key ≠ rowKey row) (createdAt : Time) :
    Orderly announced (rows ++ [{ row := row, createdAt := createdAt }]) clock leases := by
  refine ⟨?_, ?_, ?_, ?_, orderly.spaced⟩
  · exact nodup_map_concat orderly.keys fresh
  · intro entry present published
    rcases mem_concat.mp present with old | rfl
    · exact orderly.published entry old published
    · exact absurd rfl published
  · intro entry present unpublished time until_
    rcases mem_concat.mp present with old | rfl
    · exact orderly.leased entry old unpublished time until_
    · cases until_
  intro lease granted
  obtain ⟨taken, entry, present, key, last⟩ := orderly.covered lease granted
  exact ⟨taken, entry, by simp [present], key, last⟩

theorem Orderly.mono (passed : clock ≤ time)
    (known : ∀ row, announced row → later row) : Orderly later rows time leases :=
  { orderly with
    published := fun entry present published => known _ (orderly.published entry present published)
    covered := fun lease granted =>
      ⟨(orderly.covered lease granted).1.trans passed, (orderly.covered lease granted).2⟩ }

end

theorem Due.mono (due : Due announced rows clock write) (passed : clock ≤ time)
    (known : ∀ row, announced row → later row)
    (kept : ∀ entry ∈ rows, entry.key ∈ write.locks → entry ∈ after) :
    Due later after time write := by
  cases write with
  | lease keys owner now leasedUntil =>
    obtain ⟨read, positive, unique, unleased⟩ := due
    refine ⟨read.trans passed, positive, unique, fun key chosen => ?_⟩
    obtain ⟨entry, present, rfl, expired⟩ := unleased key chosen
    exact ⟨entry, kept entry present chosen, rfl, expired⟩
  | publish key owner now =>
    obtain ⟨entry, present, rfl, delivered⟩ := due
    exact ⟨entry, kept entry present (List.mem_singleton.mpr rfl), rfl, known _ delivered⟩

end

/-! ## The invariant of the state -/

/-- Every open transaction has written at most once, what it has written is due,
and no two of them hold the same row. -/
structure Sound (announced : OutboxRow → Prop) (s : OutboxState) : Prop where
  orderly : Orderly announced s.rows s.clock s.leases
  once : ∀ i session, s.session i = some session → session.writes = [] ∨
    ∃ write, session.writes = [write] ∧ Due announced s.rows s.clock write
  apart : ∀ i j mine other, s.session i = some mine → s.session j = some other → i ≠ j →
    ∀ key ∈ mine.locks, key ∉ other.locks

theorem sound_empty (announced : OutboxRow → Prop) : Sound announced {} where
  orderly := by
    refine ⟨List.nodup_nil, ?_, ?_, ?_, List.Pairwise.nil⟩
    · simp
    · simp
    · simp
  once _ _ open_ := absurd open_ nofun
  apart _ _ _ _ open_ := absurd open_ nofun

section
variable {announced later : OutboxRow → Prop} {s : OutboxState} {i : Nat}

section
variable (sound : Sound announced s)
include sound

theorem Sound.mono (known : ∀ row, announced row → later row) (passed : s.clock ≤ time) : Sound later { s with clock := time } where
  orderly := sound.orderly.mono passed known
  once j session open_ := by
    rcases sound.once j session open_ with none_ | ⟨write, only, due⟩
    · exact .inl none_
    · exact .inr ⟨write, only, due.mono passed known fun _ present _ => present⟩
  apart := sound.apart

theorem Sound.close (i : Nat) : Sound announced (s.close i) where
  orderly := sound.orderly
  once j session open_ := sound.once j session (Sessions.get_of_get_close open_).2
  apart j k mine other first second :=
    sound.apart j k mine other (Sessions.get_of_get_close first).2 (Sessions.get_of_get_close second).2

theorem Sound.insert (fresh : ∀ entry ∈ s.rows, entry.key ≠ rowKey row) (createdAt : Time) :
    Sound announced { s with rows := s.rows ++ [{ row := row, createdAt := createdAt }] } where
  orderly := sound.orderly.insert fresh createdAt
  once j session open_ := by
    rcases sound.once j session open_ with none_ | ⟨write, only, due⟩
    · exact .inl none_
    · exact .inr ⟨write, only, due.mono le_rfl (fun _ known => known)
        fun _ present _ => List.mem_append_left _ present⟩
  apart := sound.apart

theorem Sound.put
    (once : mine.writes = [] ∨ ∃ write, mine.writes = [write] ∧ Due announced s.rows s.clock write)
    (free : ∀ j other, s.session j = some other → j ≠ i → ∀ key ∈ mine.locks, key ∉ other.locks) :
    Sound announced (s.put i mine) where
  orderly := sound.orderly
  once j session open_ := by
    rcases Sessions.get_put_cases open_ with ⟨rfl, rfl⟩ | ⟨-, open_⟩
    · exact once
    · exact sound.once j session open_
  apart j k first second left right different := by
    rcases Sessions.get_put_cases left with ⟨rfl, rfl⟩ | ⟨leftOther, leftOpen⟩
    · rcases Sessions.get_put_cases right with ⟨rfl, rfl⟩ | ⟨rightOther, rightOpen⟩
      · exact absurd rfl different
      · exact free k second rightOpen rightOther
    rcases Sessions.get_put_cases right with ⟨rfl, rfl⟩ | ⟨-, rightOpen⟩
    · intro key held taken
      exact free j first leftOpen leftOther key taken held
    · exact sound.apart j k first second leftOpen rightOpen different

/-- A commit applies what is due, and leaves the rows of the other transactions alone. -/
theorem Sound.commit (open_ : s.session i = some session) :
    Sound announced (s.commit i session) where
  orderly := by
    show Orderly announced (session.visible s.rows) s.clock
      (s.leases ++ session.writes.flatMap Write.grants)
    rw [Session.visible_eq_map]
    rcases sound.once i session open_ with none_ | ⟨write, only, due⟩
    · have unchanged : session.change = id := funext fun entry => by simp [Session.change, none_]
      rw [none_, unchanged, List.map_id, List.flatMap_nil, List.append_nil]
      exact sound.orderly
    have changed : session.change = write.change := funext fun entry => by
      simp [Session.change, only]
    rw [only, changed, List.flatMap_singleton]
    exact sound.orderly.write due
  once j other there := by
    obtain ⟨different, there⟩ := Sessions.get_of_get_close there
    rcases sound.once j other there with none_ | ⟨write, only, due⟩
    · exact .inl none_
    refine .inr ⟨write, only, due.mono le_rfl (fun _ known => known) fun entry present held => ?_⟩
    have free : entry.key ∉ session.locks := by
      refine sound.apart j i other session there open_ different entry.key ?_
      rwa [Session.locks, only, List.flatMap_singleton]
    show entry ∈ session.visible s.rows
    rw [Session.visible_eq_map, List.mem_map]
    exact ⟨entry, present, Session.change_of_free free⟩
  apart j k mine other first second :=
    sound.apart j k mine other (Sessions.get_of_get_close first).2 (Sessions.get_of_get_close second).2

end

end

end UmojaFlowOS.Settlement.Outbox
