import UmojaFlowOS.Attestation.Proofs.QueueSteps
import UmojaFlowOS.Interaction.Guarded

/-!
# Leases of the attestation queue

What becomes of a row in a step, and that a lease that was claimed is the one of its row
until it is given up or has expired.
-/

namespace UmojaFlowOS.Attestation

open Interaction Relational

/-! ## Transactions -/

/-- What the transaction of a caller has locked and written, by how far the caller is. -/
def Fits (s : QueueState) (session : ClaimSession) : ClaimPhase → Prop
  | .outside => True
  | .begun => session.writes = []
  | .selected item now => session.writes = [] ∧ now ≤ s.clock ∧
      ∃ row ∈ s.rows, row.scan = item ∧ row.due now = true ∧ session.holds row.id = true
  | .written item now lease leaseUntil => now ≤ s.clock ∧
      ∃ row ∈ s.rows, row.scan = item ∧ row.due now = true ∧ session.holds row.id = true ∧
        lease.id = row.id ∧ lease.attempts = row.attempts + 1 ∧
        ∃ token, castUUID lease.token = some token ∧
          session.writes = [⟨lease.id, lease.attempts, token, leaseUntil⟩]

/-- What one step of a caller does to a row. -/
inductive RowChange (s : QueueState) (phase : ClaimPhase) (call : QueueCall)
    (row new : ItemRow) : Prop
  | kept (same : new = row)
  | claimed (written : phase = .written item now lease leaseUntil) (commits : call = .commit)
      (due : row.due now = true) (read : now ≤ s.clock) (id : lease.id = row.id)
      (next : lease.attempts = row.attempts + 1) (cast : castUUID lease.token = some token)
      (same : new = row.claimed lease.attempts token leaseUntil)
  | marked (marks : call.marks = some lease) (gives : GivesUp call change)
      (cast : castUUID lease.token = some token)
      (held : row.heldBy lease.id lease.attempts token = true) (same : new = change row)

section
variable {s after : QueueState} {i : Nat} {session : ClaimSession} {phase : ClaimPhase}

theorem heldBy_iff {row : ItemRow} {id : String} :
    row.heldBy id attempts token = true ↔
      row.id = id ∧ row.state = .running ∧ row.attempts = attempts ∧ row.leaseToken = some token := by
  simp only [ItemRow.heldBy, Bool.and_eq_true, decide_eq_true_eq, and_assoc]

/-- What is said of a transaction outlasts a step that spares the rows it has locked. -/
theorem Fits.of_kept (fits : Fits s session phase) (later : s.clock ≤ after.clock)
    (kept : ∀ row ∈ s.rows, session.holds row.id = true → row ∈ after.rows) :
    Fits after session phase := by
  cases phase with
  | outside => exact trivial
  | begun => exact fits
  | selected item now =>
    obtain ⟨nothing, read, row, present, scan, due, held⟩ := fits
    exact ⟨nothing, le_trans read later, row, kept row present held, scan, due, held⟩
  | written item now lease leaseUntil =>
    obtain ⟨read, row, present, scan, due, held, rest⟩ := fits
    exact ⟨le_trans read later, row, kept row present held, scan, due, held, rest⟩

structure Claiming (s : QueueState) (i : Nat) (session : ClaimSession) (now : Time)
    (lease : LeaseKey) (leaseUntil : Time) (row : ItemRow) (token : List Nat) : Prop where
  present : row ∈ s.rows
  due : row.due now = true
  read : now ≤ s.clock
  held : session.holds row.id = true
  id : lease.id = row.id
  next : lease.attempts = row.attempts + 1
  cast : castUUID lease.token = some token
  rows : ∀ new, new ∈ (s.commit i session).rows ↔
    new = row.claimed lease.attempts token leaseUntil ∨ new ∈ s.rows ∧ new.id ≠ row.id

theorem Fits.claiming (fits : Fits s session (.written item now lease leaseUntil)) (i : Nat)
    (ids : (s.rows.map ItemRow.id).Nodup) :
    ∃ row token, Claiming s i session now lease leaseUntil row token := by
  obtain ⟨read, row, present, -, due, held, id, next, token, cast, writes⟩ := fits
  refine ⟨row, token, present, due, read, held, id, next, cast, fun new => ?_⟩
  have rows : (s.commit i session).rows = updateWhere (fun row => row.id = lease.id)
      (ItemRow.claimed lease.attempts token leaseUntil) s.rows := by
    rw [QueueState.commit, writes]
    rfl
  rw [rows]
  refine mem_updateWhere_of_unique ids present (by simpa using id.symm) fun other matched => ?_
  exact (of_decide_eq_true matched).trans id

end

section
variable {s after : QueueState} {i : Nat} {call : QueueCall} {seen : QueueSeen}

theorem QueueEffect.clock (effect : QueueEffect s i call answer after) : s.clock ≤ after.clock := by
  cases effect with
  | ticks time later => exact later
  | _ => exact le_refl _

theorem QueueEffect.frame (effect : QueueEffect s i call answer after) (other : j ≠ i) :
    after.sessions.get j = s.sessions.get j := by
  cases effect with
  | spoils ends => exact Sessions.get_spoil_of_ne other
  | closes | commits => exact Sessions.get_close_of_ne other
  | begins | selects | claims => exact Sessions.get_put_of_ne other
  | _ => rfl

variable {row : ItemRow}

/-- An answered call changes a row as its caller may. -/
theorem QueueEffect.rowChange (effect : QueueEffect s i call answer after)
    (ids : (s.rows.map ItemRow.id).Nodup)
    (fits : ∀ session, s.sessions.get i = some session → Fits s session seen.phase)
    (permitted : seen.permits call) (present : row ∈ s.rows) :
    ∃ new ∈ after.rows, RowChange s seen.phase call row new := by
  cases effect with
  | inserts key fresh => exact ⟨row, by simp [present], .kept rfl⟩
  | commits open_ =>
    obtain ⟨item, now, lease, leaseUntil, written⟩ := permitted
    have mine := fits _ (Sessions.get_of_live open_)
    rw [written] at mine
    obtain ⟨target, token, claiming⟩ := mine.claiming i ids
    by_cases same : row.id = target.id
    · cases List.inj_on_of_nodup_map ids present claiming.present same
      exact ⟨_, (claiming.rows _).mpr (.inl rfl), .claimed written rfl claiming.due claiming.read
        claiming.id claiming.next claiming.cast rfl⟩
    · exact ⟨row, (claiming.rows row).mpr (.inr ⟨present, same⟩), .kept rfl⟩
  | marks marks gives cast free =>
    rename_i lease change token
    by_cases held : row.heldBy lease.id lease.attempts token = true
    · exact ⟨change row, mem_updateWhere.mpr (.inl ⟨row, present, held, rfl⟩),
        .marked marks gives cast held rfl⟩
    · exact ⟨row, mem_updateWhere.mpr (.inr ⟨present, by simpa using held⟩), .kept rfl⟩
  | _ => exact ⟨row, present, .kept rfl⟩

theorem mem_marked_of_held {lease : LeaseKey}
    (free : ∀ row ∈ s.rows, row.heldBy lease.id lease.attempts token = true →
      s.held lease.id = false) {j : Nat} (found : s.sessions.get j = some session)
    (present : row ∈ s.rows) (held : session.holds row.id = true) :
    row ∈ updateWhere (ItemRow.heldBy lease.id lease.attempts token) change s.rows := by
  refine mem_updateWhere.mpr (.inr ⟨present, ?_⟩)
  by_contra matched
  have matched : row.heldBy lease.id lease.attempts token = true := by simpa using matched
  have unlocked := Sessions.anywhere_eq_false.mp (free row present matched) j session found
  rw [← (heldBy_iff.mp matched).1, held] at unlocked
  cases unlocked

/-- A row that another transaction has locked is left alone. -/
theorem QueueEffect.kept (effect : QueueEffect s i call answer after)
    (ids : (s.rows.map ItemRow.id).Nodup) (apart : s.sessions.Apart ClaimSession.holds)
    (fits : ∀ session, s.sessions.get i = some session → Fits s session seen.phase)
    (permitted : seen.permits call) (found : s.sessions.get j = some session) (other : j ≠ i)
    (present : row ∈ s.rows) (held : session.holds row.id = true) : row ∈ after.rows := by
  obtain ⟨new, there, change⟩ := effect.rowChange ids fits permitted present
  cases change with
  | kept same =>
    rw [same] at there
    exact there
  | claimed written commits due read id next cast same =>
    subst commits
    cases effect with
    | commits open_ =>
      have mine := fits _ (Sessions.get_of_live open_)
      rw [written] at mine
      obtain ⟨target, token, claiming⟩ := mine.claiming i ids
      rw [← id, claiming.id] at held
      have free := apart j i session _ found (Sessions.get_of_live open_) other target.id held
      cases claiming.held.symm.trans free
    | idle | closes | spoils => exact present
    | marks marks => cases marks
  | marked marks gives cast matched same =>
    cases effect with
    | marks again gives' cast' free =>
      exact mem_marked_of_held free found present held
    | idle | closes | spoils => exact present
    | _ => cases marks

theorem givesUp_id (gives : GivesUp call change) (row : ItemRow) :
    (change row).id = row.id ∧ (change row).idempotencyKey = row.idempotencyKey := by
  cases gives <;> exact ⟨rfl, rfl⟩

theorem map_foldl_apply {κ : Type} {column : ItemRow → κ}
    (kept : ∀ attempts token leaseUntil row, column (ItemRow.claimed attempts token leaseUntil row) =
      column row) (writes : List ClaimWrite) (rows : List ItemRow) :
    (writes.foldl ClaimWrite.apply rows).map column = rows.map column := by
  induction writes generalizing rows with
  | nil => rfl
  | cons write writes ih =>
    rw [List.foldl_cons, ih, ClaimWrite.apply, map_updateWhere]
    exact kept _ _ _

theorem QueueEffect.unique (effect : QueueEffect s i call answer after)
    (ids : (s.rows.map ItemRow.id).Nodup) (keys : (s.rows.map ItemRow.idempotencyKey).Nodup) :
    (after.rows.map ItemRow.id).Nodup ∧ (after.rows.map ItemRow.idempotencyKey).Nodup := by
  cases effect with
  | inserts key fresh => exact ⟨nodup_map_concat ids fresh, nodup_map_concat keys key⟩
  | commits open_ =>
    rw [QueueState.commit]
    refine ⟨?_, ?_⟩
    · rw [map_foldl_apply fun _ _ _ _ => rfl]
      exact ids
    · rw [map_foldl_apply fun _ _ _ _ => rfl]
      exact keys
  | marks marks gives cast free =>
    exact ⟨nodup_map_updateWhere (fun row => (givesUp_id gives row).1) ids,
      nodup_map_updateWhere (fun row => (givesUp_id gives row).2) keys⟩
  | _ => exact ⟨ids, keys⟩

theorem QueueEffect.apart (effect : QueueEffect s i call answer after)
    (apart : s.sessions.Apart ClaimSession.holds) : after.sessions.Apart ClaimSession.holds := by
  have locks : ∀ (key : String) (writes : List ClaimWrite) (session : ClaimSession) (failed : Bool)
      (other : String), ClaimSession.holds other ⟨key :: session.locks, writes, failed⟩ = true →
      other = key ∨ session.holds other = true := by
    intro key writes session failed other held
    rcases List.mem_cons.mp (List.contains_iff_mem.mp held) with same | before
    · exact .inl same
    · exact .inr (List.contains_iff_mem.mpr before)
  cases effect with
  | spoils ends => exact apart.spoil i fun _ _ held => held
  | closes | commits => exact apart.close i
  | begins => exact apart.put fun _ _ _ _ _ => nofun
  | selects open_ present due free =>
    exact apart.extend (Sessions.get_of_live open_) free (locks _ _ _ _)
  | claims open_ cast free => exact apart.extend (Sessions.get_of_live open_) free (locks _ _ _ _)
  | _ => exact apart

/-- The transaction of the caller stays as the caller was told. -/
theorem QueueEffect.fits (effect : QueueEffect s i call answer after)
    (fits : ∀ session, s.sessions.get i = some session → Fits s session seen.phase)
    (permitted : seen.permits call) (times : ∀ time, seen.time = some time → time ≤ s.clock)
    (present : after.sessions.get i = some session) :
    Fits after session (seen.phase.after ⟨call, answer⟩) := by
  have clock := effect.clock
  cases effect with
  | idle idle_ other =>
    rcases (idle_ seen.phase).1 with same | out
    · rw [same]
      exact fits session present
    · rw [out]
      exact trivial
  | ticks time later => exact (fits session present).of_kept clock fun _ there _ => there
  | spoils ends | closes ends =>
    rw [(ends seen.phase).1]
    exact trivial
  | begins =>
    cases Option.some.inj (Sessions.get_put_self.symm.trans present)
    exact rfl
  | inserts key fresh =>
    exact (fits session present).of_kept clock fun _ there _ => List.mem_append_left _ there
  | selects open_ there due free =>
    cases Option.some.inj (Sessions.get_put_self.symm.trans present)
    obtain ⟨begun, read⟩ := permitted
    have mine := fits _ (Sessions.get_of_live open_)
    rw [begun] at mine
    refine ⟨mine, times _ read, _, there, rfl, due, ?_⟩
    exact List.contains_iff_mem.mpr (by simp)
  | misses absent =>
    obtain ⟨item, now, selected, id, -⟩ := permitted
    have mine := fits session present
    rw [selected] at mine
    obtain ⟨-, -, row, there, rfl, -⟩ := mine
    exact absurd id.symm (absent row there)
  | claims open_ cast free =>
    cases Option.some.inj (Sessions.get_put_self.symm.trans present)
    obtain ⟨item, now, selected, id, next⟩ := permitted
    have mine := fits _ (Sessions.get_of_live open_)
    rw [selected] at mine
    obtain ⟨nothing, read, row, there, rfl, due, held⟩ := mine
    rw [selected]
    refine ⟨read, row, there, rfl, due, ?_, id, next, _, cast, ?_⟩
    · exact List.contains_iff_mem.mpr (List.mem_cons_of_mem _ (List.contains_iff_mem.mp held))
    · rw [nothing]
      rfl
  | commits open_ => cases Sessions.get_close_self.symm.trans present
  | marks marks gives cast free =>
    have phase : seen.phase.after ⟨call, answer⟩ = seen.phase := by cases gives <;> rfl
    rw [phase]
    exact (fits session present).of_kept clock fun row there held =>
      mem_marked_of_held free present there held

end

/-! ## Leases -/

section
variable (config : QueueConfig)

def Claimed (i : Nat) (lease : Lease) : Prop :=
  ∃ thread, config.threads[i]? = some thread ∧ lease ∈ (queueSeenIn thread.past).claimed

/-- Some caller has called `MarkUnknown` or `MarkComplete` with the lease. -/
def GivenUp (key : LeaseKey) : Prop :=
  ∃ thread ∈ config.threads, ∃ mark ∈ (queueSeenIn thread.past).marked,
    mark.id = key.id ∧ mark.attempts = key.attempts ∧ castUUID mark.token = castUUID key.token

/-- A lease is the one of its row, or was given up, or has expired. -/
def Tracked (lease : Lease) : Prop :=
  ∃ token, castUUID lease.key.token = some token ∧
    ∃ row ∈ config.shared.rows, row.id = lease.key.id ∧ lease.key.attempts ≤ row.attempts ∧
      (row.heldBy lease.key.id lease.key.attempts token = true ∧
          row.leaseUntil = some lease.leaseUntil ∨
        GivenUp config lease.key ∨ lease.leaseUntil < config.shared.clock)

end

structure Leased (config : QueueConfig) : Prop where
  ids : (config.shared.rows.map ItemRow.id).Nodup
  keys : (config.shared.rows.map ItemRow.idempotencyKey).Nodup
  apart : config.shared.sessions.Apart ClaimSession.holds
  times : ∀ thread ∈ config.threads, ∀ time, (queueSeenIn thread.past).time = some time →
    time ≤ config.shared.clock
  fits : ∀ i thread session, config.threads[i]? = some thread →
    config.shared.sessions.get i = some session →
    Fits config.shared session (queueSeenIn thread.past).phase
  tracked : ∀ i lease, Claimed config i lease → Tracked config lease
  unique : ∀ i j lease other, Claimed config i lease → Claimed config j other →
    lease.key.id = other.key.id → lease.key.attempts = other.key.attempts →
    i = j ∧ lease = other

section
variable {config : QueueConfig} {i : Nat} {label : QueueJob} {past : List (Event queueCalls)}
  {call : QueueCall} {next : Program queueCalls QueueOutcome} {after : QueueState}

abbrev answered (config : QueueConfig) (i : Nat) (label : QueueJob) (past : List (Event queueCalls))
    (event : Event queueCalls) (next : Program queueCalls QueueOutcome) (after : QueueState) :
    QueueConfig :=
  ⟨after, config.threads.set i ⟨label, past ++ [event], next⟩⟩

variable {lease : Lease}

theorem Claimed.cases (active : config.threads[i]? = some ⟨label, past, rest⟩)
    (claimed : Claimed (answered config i label past event next after) j lease) :
    Claimed config j lease ∨ j = i ∧ lease ∈ (queueSeenIn past).phase.claims event := by
  obtain ⟨thread, found, listed⟩ := claimed
  rcases getElem?_set_cases found with ⟨rfl, rfl⟩ | ⟨-, before⟩
  · rw [queueSeenIn_concat] at listed
    rcases List.mem_append.mp listed with new | old
    · exact .inr ⟨rfl, new⟩
    · exact .inl ⟨_, active, old⟩
  · exact .inl ⟨thread, before, listed⟩

theorem GivenUp.answered (given : GivenUp config key)
    (active : config.threads[i]? = some ⟨label, past, rest⟩) :
    GivenUp (answered config i label past event next after) key := by
  obtain ⟨thread, present, mark, listed, same⟩ := given
  obtain ⟨j, found⟩ := List.getElem?_of_mem present
  by_cases own : j = i
  · subst own
    cases Option.some.inj (found.symm.trans active)
    refine ⟨_, List.mem_set (List.getElem?_eq_some_iff.mp active).1 _, mark, ?_, same⟩
    rw [queueSeenIn_concat]
    exact List.mem_append_right _ listed
  refine ⟨thread, List.mem_of_getElem? (i := j) ?_, mark, listed, same⟩
  rw [Attestation.answered, List.getElem?_set_ne (Ne.symm own)]
  exact found

theorem givenUp_of_marks {lease : LeaseKey} (marks : call.marks = some lease)
    (active : config.threads[i]? = some ⟨label, past, rest⟩)
    (same : lease.id = key.id ∧ lease.attempts = key.attempts ∧
      castUUID lease.token = castUUID key.token) :
    GivenUp (answered config i label past ⟨call, answer⟩ next after) key := by
  refine ⟨_, List.mem_set (List.getElem?_eq_some_iff.mp active).1 _, lease, ?_, same⟩
  rw [queueSeenIn_concat]
  refine List.mem_append_left _ ?_
  rw [marks]
  exact List.mem_singleton_self lease

theorem expired_of_due {row : ItemRow} {token : List Nat}
    (held : row.heldBy lease.key.id lease.key.attempts token = true)
    (ends : row.leaseUntil = some lease.leaseUntil) (due : row.due now = true) :
    lease.leaseUntil < now := by
  have running := (heldBy_iff.mp held).2.1
  simpa [ItemRow.due, running, ends] using due

/-- An answer to any caller keeps track of a lease. -/
theorem Tracked.answered (tracked : Tracked config lease)
    (active : config.threads[i]? = some ⟨label, past, rest⟩)
    (later : config.shared.clock ≤ after.clock)
    (changes : ∀ row ∈ config.shared.rows, ∃ new ∈ after.rows,
      RowChange config.shared (queueSeenIn past).phase call row new) :
    Tracked (answered config i label past ⟨call, answer⟩ next after) lease := by
  obtain ⟨token, cast, row, present, id, attempts, status⟩ := tracked
  obtain ⟨new, there, change⟩ := changes row present
  have lapsed : GivenUp config lease.key ∨ lease.leaseUntil < config.shared.clock →
      GivenUp (Attestation.answered config i label past ⟨call, answer⟩ next after) lease.key ∨
        lease.leaseUntil < after.clock :=
    Or.imp (fun given => given.answered active) fun before => lt_of_lt_of_le before later
  refine ⟨token, cast, new, there, ?_⟩
  cases change with
  | kept same =>
    rw [same]
    exact ⟨id, attempts, status.imp_right lapsed⟩
  | claimed written commits due read leaseID next_ leaseCast same =>
    subst same
    refine ⟨id, ?_, .inr ?_⟩
    · rw [next_]
      exact Nat.le_succ_of_le attempts
    rcases status with ⟨held, ends⟩ | past_
    · exact .inr (lt_of_lt_of_le (expired_of_due held ends due) (le_trans read later))
    · exact lapsed past_
  | marked marks gives leaseCast held same =>
    rename_i mark change markToken
    subst same
    have attempt : (change row).attempts = row.attempts := by cases gives <;> rfl
    refine ⟨(givesUp_id gives row).1.trans id, by rw [attempt]; exact attempts, .inr ?_⟩
    rcases status with ⟨mine, -⟩ | past_
    · left
      obtain ⟨markID, -, markAttempts, markTok⟩ := heldBy_iff.mp held
      obtain ⟨ownID, -, ownAttempts, ownTok⟩ := heldBy_iff.mp mine
      have token : markToken = token := Option.some.inj (markTok.symm.trans ownTok)
      refine givenUp_of_marks marks active ⟨markID.symm.trans ownID, markAttempts.symm.trans ownAttempts, ?_⟩
      rw [leaseCast, cast, token]
    · exact lapsed past_

/-! ## One step -/

theorem QueueEffect.of_claims {phase : ClaimPhase}
    (effect : QueueEffect s i call answer after) (claims : lease ∈ phase.claims ⟨call, answer⟩) :
    ∃ session item now, phase = .written item now lease.key lease.leaseUntil ∧
      s.live i = some session ∧ after = s.commit i session := by
  cases effect with
  | idle idle_ other =>
    rw [(idle_ phase).2] at claims
    cases claims
  | spoils ends | closes ends =>
    rw [(ends phase).2] at claims
    cases claims
  | commits open_ =>
    rename_i session err
    rcases err with _ | err
    case some => cases claims
    cases phase with
    | written item now key leaseUntil =>
      cases List.mem_singleton.mp claims
      exact ⟨session, item, now, rfl, open_, rfl⟩
    | _ => cases claims
  | marks marks gives cast free => cases gives <;> cases claims
  | _ => cases claims

theorem QueueEffect.time {seen : QueueSeen} (effect : QueueEffect s i call answer after)
    (times : ∀ time, seen.time = some time → time ≤ s.clock) {time : Time}
    (read : timeAfter seen.time ⟨call, answer⟩ = some time) : time ≤ after.clock := by
  have clock := effect.clock
  by_cases now : call = .now
  · subst now
    cases effect with
    | ticks reading later =>
      cases read
      exact le_refl _
    | idle idle_ other => exact absurd rfl other
    | spoils ends | closes ends => exact absurd (ends .begun).1 nofun
    | marks marks => cases marks
  have same : timeAfter seen.time ⟨call, answer⟩ = seen.time := by
    cases call with
    | now => exact absurd rfl now
    | _ => rfl
  rw [same] at read
  exact le_trans (times time read) clock

theorem Leased.attempts_lt (leased : Leased config)
    (active : config.threads[i]? = some ⟨label, past, rest⟩)
    (effect : QueueEffect config.shared i call answer after)
    (claims : lease ∈ (queueSeenIn past).phase.claims ⟨call, answer⟩)
    (before : Claimed config j other) (same : other.key.id = lease.key.id) :
    other.key.attempts < lease.key.attempts := by
  obtain ⟨session, item, now, written, open_, -⟩ := effect.of_claims claims
  have mine := leased.fits i _ session active (Sessions.get_of_live open_)
  rw [written] at mine
  obtain ⟨row, token, claiming⟩ := mine.claiming i leased.ids
  obtain ⟨-, -, old, there, id, attempts, -⟩ := leased.tracked j other before
  have own : old = row := List.inj_on_of_nodup_map leased.ids there claiming.present
    (id.trans (same.trans claiming.id))
  rw [claiming.next]
  rw [own] at attempts
  exact Nat.lt_succ_of_le attempts

theorem Leased.answered (leased : Leased config)
    (active : config.threads[i]? = some ⟨label, past, rest⟩)
    (effect : QueueEffect config.shared i call answer after)
    (permitted : (queueSeenIn past).permits call) :
    Leased (answered config i label past ⟨call, answer⟩ next after) := by
  have mine : ∀ session, config.shared.sessions.get i = some session →
      Fits config.shared session (queueSeenIn past).phase := fun session found =>
    leased.fits i _ session active found
  have times := leased.times _ (List.mem_of_getElem? active)
  have clock := effect.clock
  have seen : queueSeenIn (past ++ [⟨call, answer⟩]) = (queueSeenIn past).after ⟨call, answer⟩ :=
    queueSeenIn_concat past _
  have newer : ∀ j lease other,
      Claimed config j other → lease ∈ (queueSeenIn past).phase.claims ⟨call, answer⟩ →
      other.key.id = lease.key.id → other.key.attempts = lease.key.attempts → False :=
    fun j lease other before claims same attempts =>
      absurd (leased.attempts_lt active effect claims before same) (by omega)
  refine ⟨(effect.unique leased.ids leased.keys).1, (effect.unique leased.ids leased.keys).2,
    effect.apart leased.apart, ?_, ?_, ?_, ?_⟩
  · intro thread present time read
    rcases List.mem_or_eq_of_mem_set present with old | rfl
    · exact le_trans (leased.times thread old time read) clock
    · rw [seen] at read
      exact effect.time times read
  · intro j thread session listed found
    rcases getElem?_set_cases listed with ⟨rfl, rfl⟩ | ⟨other, before⟩
    · rw [seen]
      exact effect.fits mine permitted times found
    rw [effect.frame other] at found
    refine (leased.fits j thread session before found).of_kept clock fun row present held => ?_
    exact effect.kept leased.ids leased.apart mine permitted found other present held
  · intro j lease claimed
    rcases claimed.cases active with before | ⟨rfl, claims⟩
    · exact (leased.tracked j lease before).answered active clock fun row present =>
        effect.rowChange leased.ids mine permitted present
    obtain ⟨session, item, now, written, open_, rfl⟩ := effect.of_claims claims
    have fits := mine session (Sessions.get_of_live open_)
    rw [written] at fits
    obtain ⟨row, token, claiming⟩ := fits.claiming j leased.ids
    refine ⟨token, claiming.cast, _, (claiming.rows _).mpr (.inl rfl), claiming.id.symm,
      le_refl _, .inl ⟨heldBy_iff.mpr ⟨claiming.id.symm, rfl, rfl, rfl⟩, rfl⟩⟩
  intro j k lease other first second id attempts
  rcases first.cases active with before | ⟨rfl, claims⟩
  · rcases second.cases active with again | ⟨rfl, claimsToo⟩
    · exact leased.unique j k lease other before again id attempts
    · exact (newer j other lease before claimsToo id attempts).elim
  rcases second.cases active with again | ⟨rfl, claimsToo⟩
  · exact (newer k lease other again claims id.symm attempts.symm).elim
  obtain ⟨-, item, now, written, -, -⟩ := effect.of_claims claims
  obtain ⟨-, item', now', writtenToo, -, -⟩ := effect.of_claims claimsToo
  cases lease
  cases other
  cases written.symm.trans writtenToo
  exact ⟨rfl, rfl⟩

end

section
variable {config : QueueConfig}

/-- The invariant is kept by every step. -/
theorem Leased.step (leased : Leased config) (reached : attestors.Reaches emptyQueue config)
    (taken : attestors.next config action = some later) : Leased later := by
  rcases Machine.next_cases taken with ⟨label, program, -, rfl⟩ |
    ⟨i, label, past, request, next, choice, answer, shared, active, done, rfl⟩ | ⟨gone, shared, changed, rfl⟩
  · have old : ∀ j lease, Claimed { config with threads := config.threads ++ [⟨label, [], program⟩] }
        j lease → Claimed config j lease := by
      rintro j lease ⟨thread, found, listed⟩
      rcases getElem?_concat_cases found with ⟨-, rfl⟩ | before
      · cases listed
      · exact ⟨thread, before, listed⟩
    refine ⟨leased.ids, leased.keys, leased.apart, ?_, ?_, ?_, ?_⟩
    · intro thread present time read
      rcases mem_concat.mp present with before | rfl
      · exact leased.times thread before time read
      · cases read
    · intro j thread session listed found
      rcases getElem?_concat_cases listed with ⟨-, rfl⟩ | before
      · exact trivial
      · exact leased.fits j thread session before found
    · intro j lease claimed
      obtain ⟨token, cast, row, present, id, attempts, status⟩ := leased.tracked j lease (old j lease claimed)
      refine ⟨token, cast, row, present, id, attempts, status.imp_right (Or.imp_left ?_)⟩
      rintro ⟨thread, there, given⟩
      exact ⟨thread, by simp [there], given⟩
    · intro j k lease other first second
      exact leased.unique j k lease other (old j lease first) (old k other second)
  · have permitted := (caller_of_reaches reached (List.mem_of_getElem? active)).1
    exact leased.answered active (queueEffect_of_exec done) permitted
  cases changed
  refine ⟨leased.ids, leased.keys, leased.apart.close gone.thread, leased.times, ?_, leased.tracked,
    leased.unique⟩
  intro j thread session listed found
  exact leased.fits j thread session listed (Sessions.get_of_get_close found).2

theorem leased_of_reaches (reached : attestors.Reaches emptyQueue config) : Leased config := by
  induction reached with
  | refl =>
    refine ⟨List.nodup_nil, List.nodup_nil, Sessions.apart_empty, ?_, ?_, ?_, ?_⟩
    · exact fun _ present => absurd present List.not_mem_nil
    · exact fun _ _ _ listed => absurd listed nofun
    · rintro i lease ⟨thread, listed, -⟩
      cases listed
    · rintro i j lease other ⟨thread, listed, -⟩
      cases listed
  | tail action before taken ih => exact ih.step before taken

end

end UmojaFlowOS.Attestation
