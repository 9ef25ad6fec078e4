import UmojaFlowOS.Reconciliation.Proofs.IntentSteps

/-!
# The consumers' transactions and the intents

What a consumer's transaction has written is determined by how far the consumer is with
it, and committing it keeps the intents and the recorded decisions in agreement.
-/

namespace UmojaFlowOS.Reconciliation

open Interaction Relational

/-! ## Tables -/

/-- Keys and ids are unique, and the terminal intents are those with a decision, which is
their status. -/
structure Consistent (tables : IntentTables) : Prop where
  keys : (tables.intents.map IntentRow.key).Nodup
  ids : (tables.intents.map (·.intent.intentID)).Nodup
  decided : ∀ row ∈ tables.intents, row.status.terminal = true →
    ∃ decision ∈ tables.decisions, decision.key = row.key
  agrees : ∀ decision ∈ tables.decisions, decision.decision.terminal = true ∧
    ∃ row ∈ tables.intents, row.key = decision.key ∧ row.intent.intentID = decision.intentID ∧
      row.status = decision.decision

/-- A row keeps everything but its status, which becomes unknown or settled only, and stays once
it is terminal. -/
structure Becomes (old new : IntentRow) : Prop where
  kept : new.intent = { old.intent with status := new.status }
  written : new.status = old.status ∨ new.status = .unknown ∨ new.status = .settled
  final : old.status.terminal = true → new.status = old.status

/-- No row is lost. -/
def Evolves (tables later : IntentTables) : Prop :=
  ∀ row ∈ tables.intents, ∃ new ∈ later.intents, Becomes row new

section
variable {tables later : IntentTables} {row old new : IntentRow} {p : SettlementReconciledPayload}

theorem Becomes.refl (row : IntentRow) : Becomes row row := ⟨rfl, .inl rfl, fun _ => rfl⟩

theorem Becomes.trans {middle : IntentRow} (first : Becomes old middle)
    (second : Becomes middle new) : Becomes old new := by
  refine ⟨?_, ?_, fun terminal => ?_⟩
  · rw [second.kept, first.kept]
  · rcases second.written with same | written
    · rw [same]
      exact first.written
    · exact .inr written
  have same := first.final terminal
  rw [← same] at terminal
  rw [second.final terminal, same]

theorem Becomes.key (becomes : Becomes old new) : new.key = old.key := by
  rw [IntentRow.key, becomes.kept]
  rfl

theorem Evolves.refl (tables : IntentTables) : Evolves tables tables :=
  fun row present => ⟨row, present, .refl row⟩

theorem Evolves.trans (first : Evolves tables middle) (second : Evolves middle later) :
    Evolves tables later := by
  intro row present
  obtain ⟨new, there, becomes⟩ := first row present
  obtain ⟨newer, here, again⟩ := second new there
  exact ⟨newer, here, becomes.trans again⟩

theorem boundTo_iff : row.boundTo p = true ↔
    row.key = (p.tenantID, p.idempotencyKey) ∧ row.intent.releaseSHA = p.releaseSHA ∧
      row.intent.reconciliationRunID = p.reconciliationRunID := by
  simp only [IntentRow.boundTo, Bool.and_eq_true, decide_eq_true_eq, and_assoc]

theorem key_of_boundTo (bound : row.boundTo p = true) : row.key = (p.tenantID, p.idempotencyKey) :=
  (boundTo_iff.mp bound).1

theorem Consistent.eq_of_key (consistent : Consistent tables) (left : old ∈ tables.intents)
    (right : new ∈ tables.intents) (same : old.key = new.key) : old = new :=
  List.inj_on_of_nodup_map consistent.keys left right same

theorem Consistent.status_of_decision (consistent : Consistent tables)
    (decided : decision ∈ tables.decisions) (present : row ∈ tables.intents)
    (same : decision.key = row.key ∨ decision.intentID = row.intent.intentID) :
    row.status = decision.decision := by
  obtain ⟨-, other, there, key, id, status⟩ := consistent.agrees decision decided
  rcases same with same | same
  · rw [consistent.eq_of_key present there (same.symm.trans key.symm)]
    exact status
  · rw [List.inj_on_of_nodup_map consistent.ids present there (same.symm.trans id.symm)]
    exact status

/-! ## One row is rewritten -/

/-- The tables after the row bound to an event was given a status, and decisions were
recorded. -/
def rewritten (tables : IntentTables) (p : SettlementReconciledPayload) (status : IntentStatus)
    (column : Column) (providerRef : String) (now : Int) (decisions : List DecisionRow) :
    IntentTables :=
  { tables with
    intents := updateWhere (IntentRow.boundTo p) (IntentRow.updated status column providerRef now)
      tables.intents
    decisions := tables.decisions ++ decisions }

variable {status : IntentStatus} {column : Column} {providerRef : String} {now : Int}
  {decisions : List DecisionRow}

section
variable (consistent : Consistent tables) (present : row ∈ tables.intents)
  (bound : row.boundTo p = true)
include consistent present bound

theorem mem_rewritten :
    new ∈ (rewritten tables p status column providerRef now decisions).intents ↔
      new = row.updated status column providerRef now ∨ new ∈ tables.intents ∧ new.key ≠ row.key :=
  mem_updateWhere_of_unique consistent.keys present bound fun _ matched =>
    (key_of_boundTo matched).trans (key_of_boundTo bound).symm

theorem evolves_rewritten (writes : status = .unknown ∨ status = .settled)
    (final : row.status.terminal = true → status = row.status) :
    Evolves tables (rewritten tables p status column providerRef now decisions) := by
  intro old there
  by_cases same : old.key = row.key
  · rw [consistent.eq_of_key there present same]
    exact ⟨_, (mem_rewritten consistent present bound).mpr (.inl rfl), rfl, .inr writes, final⟩
  · exact ⟨old, (mem_rewritten consistent present bound).mpr (.inr ⟨there, same⟩), .refl old⟩

/-- Tables stay consistent if the row was open or keeps its status, and a status that is
terminal comes with its decision. -/
theorem Consistent.rewrite (final : row.status.terminal = true → status = row.status)
    (about : ∀ decision ∈ decisions, decision.key = row.key ∧
      decision.intentID = row.intent.intentID ∧ decision.decision = status ∧
      status.terminal = true)
    (recorded : status.terminal = true → row.status.terminal = true ∨ decisions ≠ []) :
    Consistent (rewritten tables p status column providerRef now decisions) where
  keys := by
    have kept : (rewritten tables p status column providerRef now decisions).intents.map
        IntentRow.key = tables.intents.map IntentRow.key := map_updateWhere fun _ => rfl
    rw [kept]
    exact consistent.keys
  ids := by
    have kept : (rewritten tables p status column providerRef now decisions).intents.map
        (·.intent.intentID) = tables.intents.map (·.intent.intentID) :=
      map_updateWhere fun _ => rfl
    rw [kept]
    exact consistent.ids
  decided new there terminal := by
    rcases (mem_rewritten consistent present bound).mp there with rfl | ⟨old, -⟩
    · rcases recorded terminal with before | some_
      · obtain ⟨decision, decided, same⟩ := consistent.decided row present before
        exact ⟨decision, List.mem_append_left _ decided, same⟩
      · obtain ⟨decision, written⟩ := List.exists_mem_of_ne_nil decisions some_
        exact ⟨decision, List.mem_append_right _ written, (about decision written).1⟩
    · obtain ⟨decision, decided, same⟩ := consistent.decided new old terminal
      exact ⟨decision, List.mem_append_left _ decided, same⟩
  agrees decision decided := by
    rcases List.mem_append.mp decided with before | written
    · obtain ⟨terminal, other, there, key, id, same⟩ := consistent.agrees decision before
      refine ⟨terminal, ?_⟩
      by_cases own : other.key = row.key
      · rw [consistent.eq_of_key there present own] at key id same
        refine ⟨_, (mem_rewritten consistent present bound).mpr (.inl rfl), key, id, ?_⟩
        rw [← same] at terminal
        exact (final terminal).trans same
      · exact ⟨other, (mem_rewritten consistent present bound).mpr (.inr ⟨there, own⟩), key, id, same⟩
    obtain ⟨key, id, same, terminal⟩ := about decision written
    rw [same]
    exact ⟨terminal, _, (mem_rewritten consistent present bound).mpr (.inl rfl), key.symm,
      id.symm, rfl⟩

end

end

/-! ## Transactions -/

/-- The row that a transaction is about to rewrite, and has locked. -/
structure Targets (tables : IntentTables) (session : IntentSession)
    (p : SettlementReconciledPayload) (row : IntentRow) : Prop where
  present : row ∈ tables.intents
  bound : row.boundTo p = true
  held : session.holds row.key = true

/-- A transaction that has written `SETTLED` and not yet the decision. -/
inductive Settling (tables : IntentTables) (session : IntentSession)
    (p : SettlementReconciledPayload) : Prop
  | intro (writes : session.writes = [.update p .settled column providerRef now])
      (target : Targets tables session p row)
      (open_ : row.status.terminal = true → row.status = .settled)

/-- A transaction that may be committed. -/
inductive Ready (tables : IntentTables) (session : IntentSession) : Prop
  | inbox (only : ∀ write ∈ session.writes, write.inInbox = true)
  | rewrites (writes : session.writes = [.update p status column providerRef now])
      (target : Targets tables session p row)
      (written : status = .unknown ∧ row.status.terminal = false ∨
        status = .settled ∧ row.status = .settled)
  | settles (writes : session.writes = [.update p .settled column providerRef now, .decide decision])
      (target : Targets tables session p row) (open_ : row.status.terminal = false)
      (about : decision.key = row.key ∧ decision.intentID = row.intent.intentID ∧
        decision.decision = .settled)

section
variable {tables later : IntentTables} {session : IntentSession} {row new : IntentRow}
  {p : SettlementReconciledPayload}

/-- What is said of a transaction outlasts a change that spares the rows it has locked. -/
theorem Targets.of_kept (target : Targets tables session p row)
    (kept : ∀ row ∈ tables.intents, session.holds row.key = true → row ∈ later.intents) :
    Targets later session p row :=
  ⟨kept row target.present target.held, target.bound, target.held⟩

theorem Settling.of_kept (settling : Settling tables session p)
    (kept : ∀ row ∈ tables.intents, session.holds row.key = true → row ∈ later.intents) :
    Settling later session p := by
  obtain ⟨writes, target, open_⟩ := settling
  exact .intro writes (target.of_kept kept) open_

theorem Ready.of_kept (ready : Ready tables session)
    (kept : ∀ row ∈ tables.intents, session.holds row.key = true → row ∈ later.intents) :
    Ready later session := by
  cases ready with
  | inbox only => exact .inbox only
  | rewrites writes target written => exact .rewrites writes (target.of_kept kept) written
  | settles writes target open_ about => exact .settles writes (target.of_kept kept) open_ about

theorem visible_of_inbox (only : ∀ write ∈ session.writes, write.inInbox = true) :
    (session.visible tables).intents = tables.intents ∧
      (session.visible tables).decisions = tables.decisions := by
  have step : ∀ (writes : List IntentWrite) (tables : IntentTables),
      (∀ write ∈ writes, write.inInbox = true) →
      (writes.foldl IntentWrite.apply tables).intents = tables.intents ∧
        (writes.foldl IntentWrite.apply tables).decisions = tables.decisions := by
    intro writes
    induction writes with
    | nil => exact fun _ _ => ⟨rfl, rfl⟩
    | cons write writes ih =>
      intro tables only
      have rest := ih (write.apply tables) fun other listed => only other (by simp [listed])
      have first := only write (by simp)
      cases write with
      | receive | process => exact rest
      | _ => cases first
  exact step session.writes tables only

theorem visible_of_update (writes : session.writes = [.update p status column providerRef now]) :
    session.visible tables = rewritten tables p status column providerRef now [] := by
  rw [IntentSession.visible, writes, rewritten, List.append_nil]
  rfl

theorem visible_of_decide
    (writes : session.writes = [.update p status column providerRef now, .decide decision]) :
    session.visible tables = rewritten tables p status column providerRef now [decision] := by
  rw [IntentSession.visible, writes]
  rfl

structure Committed (tables : IntentTables) (session : IntentSession) : Prop where
  consistent : Consistent (session.visible tables)
  evolves : Evolves tables (session.visible tables)
  kept : ∀ row ∈ tables.intents, session.holds row.key = false →
    row ∈ (session.visible tables).intents

theorem committed_of_rewritten (consistent : Consistent tables)
    (target : Targets tables session p row) (visible : session.visible tables =
      rewritten tables p status column providerRef now decisions)
    (writes : status = .unknown ∨ status = .settled)
    (final : row.status.terminal = true → status = row.status)
    (about : ∀ decision ∈ decisions, decision.key = row.key ∧
      decision.intentID = row.intent.intentID ∧ decision.decision = status ∧
      status.terminal = true)
    (recorded : status.terminal = true → row.status.terminal = true ∨ decisions ≠ []) :
    Committed tables session := by
  obtain ⟨present, bound, held⟩ := target
  constructor
  · rw [visible]
    exact consistent.rewrite present bound final about recorded
  · rw [visible]
    exact evolves_rewritten consistent present bound writes final
  intro other there free
  rw [visible]
  refine (mem_rewritten consistent present bound).mpr (.inr ⟨there, fun same => ?_⟩)
  rw [same, held] at free
  cases free

/-- A commit of a ready transaction keeps the tables consistent. -/
theorem Ready.committed (ready : Ready tables session) (consistent : Consistent tables) :
    Committed tables session := by
  cases ready with
  | inbox only =>
    have intents : (session.visible tables).intents = tables.intents := (visible_of_inbox only).1
    have decisions : (session.visible tables).decisions = tables.decisions :=
      (visible_of_inbox only).2
    refine ⟨⟨?_, ?_, ?_, ?_⟩, ?_, ?_⟩
    · rw [intents]
      exact consistent.keys
    · rw [intents]
      exact consistent.ids
    · rw [intents, decisions]
      exact consistent.decided
    · rw [intents, decisions]
      exact consistent.agrees
    · rw [Evolves, intents]
      exact Evolves.refl tables
    intro row present _
    rw [intents]
    exact present
  | rewrites writes target written =>
    refine committed_of_rewritten consistent target (visible_of_update writes)
      (written.imp (·.1) (·.1)) ?_ ?_ ?_
    · intro terminal
      rcases written with ⟨-, open_⟩ | ⟨rfl, same⟩
      · cases terminal.symm.trans open_
      · exact same.symm
    · simp
    intro terminal
    rcases written with ⟨rfl, -⟩ | ⟨rfl, same⟩
    · cases terminal
    · rw [same]
      exact .inl rfl
  | settles writes target open_ about =>
    refine committed_of_rewritten consistent target (visible_of_decide writes) (.inr rfl) ?_ ?_
      fun _ => .inr nofun
    · exact fun terminal => absurd (terminal.symm.trans open_) nofun
    intro decision listed
    rw [List.mem_singleton.mp listed]
    exact ⟨about.1, about.2.1, about.2.2, rfl⟩

end

/-! ## A consumer and its transaction -/

/-- What the transaction of a consumer has written, by how far it is. -/
def Fits (tables : IntentTables) (session : IntentSession) : TxPhase → Prop
  | .outside => True
  | .begun => session.writes = []
  | .reading => ∀ write ∈ session.writes, write.inInbox = true
  | .updated p status _ _ _ => status = .unknown ∧ Ready tables session ∨
      status = .settled ∧ Settling tables session p
  | .decided _ _ => Ready tables session

/-- The intent that a consumer has loaded for its event is still there, and has not failed
since it was seen open. -/
def Remembers (tables : IntentTables) (known : Known) : Prop :=
  ∀ p intent, known.event = some p → known.intent = some intent →
    ∃ row ∈ tables.intents, row.key = (p.tenantID, p.idempotencyKey) ∧
      row.intent = { intent with status := row.status } ∧
      (intent.status.terminal = false → row.status.terminal = true → row.status = .settled)

/-- No two transactions have locked one intent. -/
abbrev LocksApart (sessions : Sessions IntentSession) : Prop := sessions.Apart IntentSession.holds

section
variable {tables later : IntentTables} {session : IntentSession} {phase : TxPhase} {known : Known}

theorem Fits.of_kept (fits : Fits tables session phase)
    (kept : ∀ row ∈ tables.intents, session.holds row.key = true → row ∈ later.intents) :
    Fits later session phase := by
  cases phase with
  | outside => exact trivial
  | begun | reading => exact fits
  | updated p status transferID providerRef now =>
    refine fits.imp (fun unknown => ⟨unknown.1, unknown.2.of_kept kept⟩) fun settled => ?_
    exact ⟨settled.1, settled.2.of_kept kept⟩
  | decided p status => exact Ready.of_kept fits kept

theorem Fits.ready (fits : Fits tables session phase) (permitted : phase.permits .commit) :
    Ready tables session := by
  rcases permitted with rfl | ⟨p, status, rfl⟩
  · exact .inbox fits
  · exact fits

theorem Remembers.of_evolves (remembers : Remembers tables known)
    (evolves : Evolves tables later) : Remembers later known := by
  intro p intent handled loaded
  obtain ⟨row, present, key, same, open_⟩ := remembers p intent handled loaded
  obtain ⟨new, there, becomes⟩ := evolves row present
  refine ⟨new, there, becomes.key.trans key, ?_, fun before terminal => ?_⟩
  · rw [becomes.kept, same]
  rcases becomes.written with unchanged | unknown | settled
  · rw [unchanged] at terminal ⊢
    exact open_ before terminal
  · rw [unknown] at terminal
    cases terminal
  · exact settled

theorem Remembers.after (remembers : Remembers tables known)
    (other : ∀ tenantID key intent, event ≠ ⟨.selectIntent tenantID key, .ok intent⟩) :
    Remembers tables (known.after event) := by
  unfold Known.after
  split
  · exact fun _ _ _ => nofun
  · rename_i tenantID key intent
    exact absurd rfl (other tenantID key intent)
  · exact remembers
  · exact remembers

end

section
variable {s : Database} {session : IntentSession}

section
variable (apart : LocksApart s.sessions)
include apart

theorem LocksApart.lock (open_ : s.live i = some session) (free : s.locked i key = false) :
    LocksApart (s.sessions.put i ⟨writes, key :: session.locks, failed⟩) := by
  refine Sessions.Apart.extend apart (Sessions.get_of_live open_) free fun other holds => ?_
  rcases List.mem_cons.mp (List.contains_iff_mem.mp holds) with same | before
  · exact .inl same
  · exact .inr (List.contains_iff_mem.mpr before)

theorem LocksApart.same (found : s.sessions.get i = some session) :
    LocksApart (s.sessions.put i ⟨writes, session.locks, failed⟩) :=
  Sessions.Apart.update apart found fun _ held => held

end

variable {call : ConsumerCall}

theorem IntentEffect.apart (effect : IntentEffect s i call answer after)
    (apart : LocksApart s.sessions) : LocksApart after.sessions := by
  cases effect with
  | spoils silent => exact apart.spoil i fun _ _ held => held
  | closes | commits => exact apart.close i
  | begins tenantID => exact apart.put fun _ _ _ _ _ => nofun
  | writes open_ inbox only | decides column open_ terminal found fresh =>
    exact LocksApart.same apart (Sessions.get_of_live open_)
  | selects open_ found free | updates column open_ bound free =>
    exact LocksApart.lock apart open_ free
  | _ => exact apart

theorem IntentEffect.frame (effect : IntentEffect s i call answer after)
    (other : j ≠ i) : after.sessions.get j = s.sessions.get j := by
  cases effect with
  | spoils silent => exact Sessions.get_spoil_of_ne other
  | closes | commits => exact Sessions.get_close_of_ne other
  | begins | writes | selects | updates | decides => exact Sessions.get_put_of_ne other
  | _ => rfl

theorem IntentEffect.tables_cases (effect : IntentEffect s i call answer after) :
    after.tables = s.tables ∨
      call = .commit ∧ ∃ session, s.live i = some session ∧
        after.tables = session.visible s.tables := by
  cases effect with
  | commits open_ => exact .inr ⟨rfl, _, open_, rfl⟩
  | _ => exact .inl rfl

end

/-! ## What a consumer's transaction writes -/

section
variable {tables : IntentTables} {session : IntentSession} {row : IntentRow}
  {p : SettlementReconciledPayload} {column : Column} {providerRef : String} {now : Int}

/-- The row that a transaction which writes `SETTLED` finds for its decision. -/
theorem Settling.row_found (settling : Settling tables session p) (consistent : Consistent tables) :
    ∃ row column providerRef now, session.writes = [.update p .settled column providerRef now] ∧
      Targets tables session p row ∧ (row.status.terminal = true → row.status = .settled) ∧
      (session.visible tables).decisions = tables.decisions ∧
      (session.visible tables).intents.find? (·.key = (p.tenantID, p.idempotencyKey)) =
        some (row.updated .settled column providerRef now) := by
  obtain ⟨writes, target, open_⟩ := settling
  rename_i column providerRef now row
  have visible : session.visible tables =
      rewritten tables p .settled column providerRef now [] := visible_of_update writes
  refine ⟨row, column, providerRef, now, writes, target, open_, ?_, ?_⟩
  · rw [visible]
    exact List.append_nil _
  have there : row.updated .settled column providerRef now ∈
      (rewritten tables p .settled column providerRef now []).intents :=
    (mem_rewritten consistent target.present target.bound).mpr (.inl rfl)
  have keys : ((rewritten tables p .settled column providerRef now []).intents.map
      IntentRow.key).Nodup := by
    have kept : (rewritten tables p .settled column providerRef now []).intents.map
        IntentRow.key = tables.intents.map IntentRow.key := map_updateWhere fun _ => rfl
    rw [kept]
    exact consistent.keys
  rw [visible, ← key_of_boundTo target.bound]
  exact find?_of_unique keys there

theorem clashes_iff {first second : DecisionRow} : first.clashes second = true ↔
    first.tenantID = second.tenantID ∧
      (first.intentID = second.intentID ∨ first.idempotencyKey = second.idempotencyKey) := by
  simp only [DecisionRow.clashes, Bool.and_eq_true, Bool.or_eq_true, decide_eq_true_eq]

/-- A decision of the intent is there already: then the intent was settled before. -/
theorem Settling.skipped (settling : Settling tables session p) (consistent : Consistent tables)
    (why : Undecided (session.visible tables) p .settled) : Ready tables session := by
  obtain ⟨row, column, providerRef, now, writes, target, open_, decisions, found⟩ :=
    settling.row_found consistent
  cases why with
  | open_ nonterminal => cases nonterminal
  | absent absent => cases found.symm.trans absent
  | clashes column providerRef now again present clash =>
    rename_i decision
    cases found.symm.trans again
    rw [decisions] at present
    obtain ⟨tenant, same⟩ := clashes_iff.mp clash
    have status : row.status = decision.decision := by
      refine consistent.status_of_decision present target.present ?_
      exact same.symm.imp (fun key => Prod.ext tenant key) fun id => id
    have settled : row.status = .settled := by
      refine open_ ?_
      rw [status]
      exact (consistent.agrees _ present).1
    exact .rewrites writes target (.inr ⟨rfl, settled⟩)

/-- The decision is recorded: then the intent was open. -/
theorem Settling.decides (settling : Settling tables session p) (consistent : Consistent tables)
    (again : (session.visible tables).intents.find? (·.key = (p.tenantID, p.idempotencyKey)) =
      some found) (fresh : (session.visible tables).decisions.any
      (·.clashes (found.decided p .settled column providerRef now)) = false) :
    Ready tables { session with writes := session.writes ++
      [.decide (found.decided p .settled column providerRef now)] } := by
  obtain ⟨row, oldColumn, oldRef, oldNow, writes, target, -, decisions, first⟩ :=
    settling.row_found consistent
  cases first.symm.trans again
  have open_ : row.status.terminal = false := by
    by_contra terminal
    obtain ⟨decision, present, same⟩ :=
      consistent.decided row target.present (by simpa using terminal)
    rw [decisions] at fresh
    refine List.any_eq_false.mp fresh decision present (clashes_iff.mpr ?_)
    exact ⟨congrArg Prod.fst same, .inr (congrArg Prod.snd same)⟩
  refine Ready.settles (congrArg (· ++ _) writes) ?_ open_ ⟨rfl, rfl, rfl⟩
  exact ⟨target.present, target.bound, target.held⟩

theorem Remembers.settleable (remembers : Remembers tables known)
    (settleable : known.Settleable p) : ∃ row ∈ tables.intents, row.boundTo p = true ∧
      (row.status.terminal = true → row.status = .settled) := by
  obtain ⟨handled, intent, loaded, bound, open_⟩ := settleable
  obtain ⟨row, present, key, same, final⟩ := remembers p intent handled loaded
  have fields : intent.releaseSHA = p.releaseSHA ∧
      intent.reconciliationRunID = p.reconciliationRunID := by
    unfold IntentRecord.boundTo at bound
    simp only [Bool.and_eq_true, decide_eq_true_eq] at bound
    exact ⟨bound.1.2, bound.2⟩
  refine ⟨row, present, boundTo_iff.mpr ⟨key, ?_, ?_⟩, final open_⟩
  · rw [same]
    exact fields.1
  · rw [same]
    exact fields.2

end

/-! ## One answer -/

section
variable {s : Database} {call : ConsumerCall} {phase : TxPhase} {known : Known}

/-- The call does not write `UNKNOWN` over a terminal intent. -/
def Spares (tables : IntentTables) (call : ConsumerCall) : Prop :=
  ∀ p transferID providerRef now, call = .updateIntent p .unknown transferID providerRef now →
    ∀ row ∈ tables.intents, row.boundTo p = true → row.status.terminal = false

theorem onInbox_after (inbox : OnInbox event) :
    phase.after event = .reading ∧
      (phase.permits event.call → phase = .begun ∨ phase = .reading) := by
  unfold OnInbox at inbox
  split at inbox
  · exact ⟨rfl, .inl⟩
  · exact ⟨rfl, .inr⟩
  · exact ⟨rfl, .inl⟩
  · exact absurd inbox id

theorem Fits.inbox (fits : Fits tables session phase) (early : phase = .begun ∨ phase = .reading) :
    ∀ write ∈ session.writes, write.inInbox = true := by
  rcases early with rfl | rfl
  · have nothing : session.writes = [] := fits
    rw [nothing]
    simp
  · exact fits

theorem visible_of_nil {session : IntentSession}
    (nothing : session.writes = []) : session.visible tables = tables := by
  rw [IntentSession.visible, nothing]
  rfl

theorem IntentEffect.fits (effect : IntentEffect s i call answer after)
    (consistent : Consistent s.tables)
    (fits : ∀ session, s.sessions.get i = some session → Fits s.tables session phase)
    (remembers : Remembers s.tables known) (phased : phase.permits call)
    (permitted : known.permits call) (spares : Spares s.tables call)
    (present : after.sessions.get i = some session) :
    Fits after.tables session (phase.after ⟨call, answer⟩) := by
  cases effect with
  | idle silent | spoils silent | closes silent =>
    rw [silent phase]
    exact trivial
  | begins tenantID =>
    cases Option.some.inj (Sessions.get_put_self.symm.trans present)
    rfl
  | reads open_ inbox =>
    rw [(onInbox_after inbox).1]
    exact (fits session present).inbox ((onInbox_after inbox).2 phased)
  | writes open_ inbox only =>
    cases Option.some.inj (Sessions.get_put_self.symm.trans present)
    rw [(onInbox_after inbox).1]
    intro write listed
    rcases mem_concat.mp listed with old | rfl
    · exact (fits _ (Sessions.get_of_live open_)).inbox ((onInbox_after inbox).2 phased) write old
    · exact only
  | selects open_ found free =>
    cases Option.some.inj (Sessions.get_put_self.symm.trans present)
    exact (fits _ (Sessions.get_of_live open_)).inbox (.inl phased)
  | misses open_ none_ =>
    obtain rfl : phase = .begun := phased
    cases Option.some.inj ((Sessions.get_of_live open_).symm.trans present)
    have nothing : session.writes = [] := fits session present
    rcases permitted.2 with rfl | ⟨-, -, settleable⟩
    · exact .inl ⟨rfl, .inbox ((fits session present).inbox (.inl rfl))⟩
    obtain ⟨row, there, bound, -⟩ := remembers.settleable settleable
    rw [visible_of_nil nothing] at none_
    exact absurd bound (List.any_eq_false.mp none_ row there)
  | updates column open_ bound free =>
    rename_i old p status transferID providerRef now
    obtain rfl : phase = .begun := phased
    cases Option.some.inj (Sessions.get_put_self.symm.trans present)
    have nothing : old.writes = [] := fits old (Sessions.get_of_live open_)
    rw [visible_of_nil nothing] at bound
    have held : ∀ row : IntentRow, row.boundTo p = true → IntentSession.holds row.key
        ⟨old.writes ++ [.update p status column providerRef now],
          (p.tenantID, p.idempotencyKey) :: old.locks, old.failed⟩ = true := fun row matched => by
      rw [key_of_boundTo matched]
      exact List.contains_iff_mem.mpr (by simp)
    have writes : old.writes ++ [IntentWrite.update p status column providerRef now] =
        [.update p status column providerRef now] := by rw [nothing, List.nil_append]
    rcases permitted.2 with rfl | ⟨rfl, -, settleable⟩
    · obtain ⟨row, there, matched⟩ := List.any_eq_true.mp bound
      refine .inl ⟨rfl, .rewrites writes ⟨there, matched, held row matched⟩ (.inl ⟨rfl, ?_⟩)⟩
      exact spares p transferID providerRef now rfl row there matched
    · obtain ⟨row, there, matched, open_⟩ := remembers.settleable settleable
      exact .inr ⟨rfl, .intro writes ⟨there, matched, held row matched⟩ open_⟩
  | skips open_ why =>
    obtain rfl : phase = .updated _ _ _ _ _ := phased
    cases Option.some.inj ((Sessions.get_of_live open_).symm.trans present)
    rcases fits session present with ⟨-, ready⟩ | ⟨rfl, settling⟩
    · exact ready
    · exact settling.skipped consistent why
  | decides column open_ terminal found fresh =>
    obtain rfl : phase = .updated _ _ _ _ _ := phased
    cases Option.some.inj (Sessions.get_put_self.symm.trans present)
    rcases fits _ (Sessions.get_of_live open_) with ⟨rfl, -⟩ | ⟨rfl, settling⟩
    · cases terminal
    · exact settling.decides consistent found fresh
  | commits open_ =>
    cases Sessions.get_close_self.symm.trans present

theorem IntentEffect.remembers (effect : IntentEffect s i call answer after)
    (fits : ∀ session, s.sessions.get i = some session → Fits s.tables session phase)
    (remembers : Remembers s.tables known) (phased : phase.permits call)
    (permitted : known.permits call) : Remembers s.tables (known.after ⟨call, answer⟩) := by
  by_cases other : ∀ tenantID key intent,
      (⟨call, answer⟩ : Event consumerCalls) ≠ ⟨.selectIntent tenantID key, .ok intent⟩
  · exact remembers.after other
  simp only [not_forall, not_not] at other
  obtain ⟨tenantID, key, intent, same⟩ := other
  cases same
  cases effect with
  | idle silent | spoils silent | closes silent => cases silent .outside
  | reads open_ inbox | writes open_ inbox only => exact absurd inbox id
  | selects open_ found free =>
    rename_i session row
    obtain rfl : phase = .begun := phased
    have nothing : session.writes = [] := fits session (Sessions.get_of_live open_)
    rw [visible_of_nil nothing] at found
    obtain ⟨p, handled, rfl, rfl⟩ := permitted
    intro event loaded told same
    cases told.symm.trans handled
    cases same
    refine ⟨row, List.mem_of_find?_eq_some found, ?_, rfl, fun open_ terminal => ?_⟩
    · simpa using List.find?_some found
    · cases terminal.symm.trans open_

end

end UmojaFlowOS.Reconciliation
