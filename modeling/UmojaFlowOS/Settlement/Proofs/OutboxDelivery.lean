import UmojaFlowOS.Settlement.Proofs.OutboxTable

/-!
# Delivery of outbox events

What holds in every run of the outbox workers: an event is marked as published
only after its publication, and leases of one event do not overlap in time.
-/

namespace UmojaFlowOS.Settlement.Outbox

open Go Interaction Relational

attribute [local irreducible] trimSpace

/-! ## What a worker has done before it writes -/

section
variable (history : List (Event calls))

def Claimed (event : OutboxEvent) : Prop :=
  ∃ tenantID now limit owner leasedUntil events,
    ⟨.run (.claim tenantID now limit owner leasedUntil), .ok events⟩ ∈ history ∧ event ∈ events

/-- An event of this key was claimed, and its publication acknowledged. -/
def Delivered (tenantID eventID : String) : Prop :=
  ∃ event topic, Claimed history event ∧ event.tenantID = tenantID ∧ event.eventID = eventID ∧
    ⟨.publish topic (envelope event), none⟩ ∈ history

def Begun (tenantID : String) (now : Time) : Prop :=
  ∃ before, history = before ++ [⟨.run (.beginTx tenantID), .ok ()⟩] ++ [⟨.now, now⟩]

/-- The two writing statements come first in their transaction, with the time just
read; a lease ends later than it starts, and only a delivered event is marked. -/
def guar : Call → Prop
  | .run (.claim tenantID now _ _ leasedUntil) => Begun history tenantID now ∧ now < leasedUntil
  | .run (.mark now tenantID eventID _) =>
    Begun history tenantID now ∧ Delivered history tenantID eventID
  | _ => True

end

theorem Claimed.append (claimed : Claimed history event) (later : List (Event calls)) :
    Claimed (history ++ later) event := by
  obtain ⟨tenantID, now, limit, owner, leasedUntil, events, seen, present⟩ := claimed
  exact ⟨tenantID, now, limit, owner, leasedUntil, events, List.mem_append_left later seen, present⟩

variable {tenantID : String}

theorem Delivered.append (delivered : Delivered history tenantID eventID)
    (later : List (Event calls)) : Delivered (history ++ later) tenantID eventID := by
  obtain ⟨event, topic, claimed, tenant, id, published⟩ := delivered
  exact ⟨event, topic, claimed.append later, tenant, id, List.mem_append_left later published⟩

section
variable {α : Type} {post : List (Event calls) → α → Prop} {history : List (Event calls)}

/-- A transaction keeps the contract if its body does; rolling back adds to the
history, so what is known at the end must not depend on its last event. -/
theorem withTx_meets
    (kept : ∀ history event value, post history value → post (history ++ [event]) value)
    (fails : ∀ seen err, history <+: seen → post seen (failed err))
    (meets : Meets (onHistory anyAnswer guar) post
      (history ++ [⟨.run (.beginTx tenantID), .ok ()⟩]) body) :
    Meets (onHistory anyAnswer guar) post history (withTx tenantID failed body) := by
  unfold withTx
  split
  · exact fails history _ List.prefix_rfl
  refine meets_ask_bind.mpr ⟨trivial, fun answer _ => ?_⟩
  cases answer with
  | error err => exact fails _ err (List.prefix_append _ _)
  | ok _ =>
    refine meets.bind fun seen value known => meets_ask_bind.mpr ⟨trivial, fun _ _ => ?_⟩
    exact kept seen _ value known

end

/-- What a claim returns was claimed. -/
theorem claimOutbox_meets (tenantID owner : String) (limit lease : Int)
    (history : List (Event calls)) :
    Meets (onHistory anyAnswer guar)
      (fun seen result => ∀ event ∈ result.1, Claimed seen event) history
      (claimOutbox tenantID owner limit lease) := by
  have nothing : ∀ seen, ∀ event ∈ ([] : List OutboxEvent), Claimed seen event :=
    by simp
  unfold claimOutbox
  split
  · exact nothing _
  rename_i checked
  refine withTx_meets (fun seen event result claimed each there => (claimed each there).append _)
    (fun _ _ _ => nothing _) ?_
  refine meets_ask_bind.mpr ⟨trivial, fun now _ => ?_⟩
  have positive : 0 < lease := by
    simp only [not_or, not_le, gt_iff_lt, not_lt] at checked
    exact checked.2.2.2
  refine meets_ask_bind.mpr ⟨⟨⟨history, rfl⟩, Int.lt_add_of_pos_right now positive⟩,
    fun answer _ => ?_⟩
  rcases answer with err | events
  · exact nothing _
  refine meets_ask_bind.mpr ⟨trivial, fun committed _ => ?_⟩
  rcases committed with err | _
  · exact nothing _
  intro event present
  refine Claimed.append ?_ _
  exact ⟨tenantID, now, limit, owner, now + lease, events, by simp, present⟩

theorem markOutboxPublished_meets (delivered : Delivered history tenantID eventID) :
    Meets (onHistory anyAnswer guar) (fun seen _ => history <+: seen) history
      (markOutboxPublished tenantID eventID owner) := by
  unfold markOutboxPublished
  split
  · exact List.prefix_rfl
  refine withTx_meets (fun seen event _ kept => kept.trans (List.prefix_append _ _))
    (fun _ _ kept => kept) ?_
  refine meets_ask_bind.mpr ⟨trivial, fun now _ => ?_⟩
  refine meets_ask_bind.mpr ⟨⟨⟨history, rfl⟩, (delivered.append _).append _⟩, fun answer _ => ?_⟩
  have kept : ∀ later, history <+: history ++ later := List.prefix_append history
  simp only [onHistory_observe, List.append_assoc]
  rcases answer with err | affected
  · exact kept _
  by_cases one : affected = 1
  · simp only [one, ne_eq, not_true_eq_false, if_false]
    refine meets_ask_bind.mpr ⟨trivial, fun committed _ => ?_⟩
    cases committed with
    | error | ok => simp
  · simp only [ne_eq, one, not_false_eq_true, if_true]
    exact kept _

/-- Only events whose publication was acknowledged are marked. -/
theorem publishAll_meets (w : OutboxWorker) (tenantID : String) (published : Nat)
    (events : List OutboxEvent) (history : List (Event calls))
    (claimed : ∀ event ∈ events, Claimed history event) :
    Meets (onHistory anyAnswer guar) (fun _ _ => True) history
      (publishAll w tenantID published events) := by
  induction events generalizing published history with
  | nil => trivial
  | cons event events ih =>
    unfold publishAll
    rcases validateOutboxEvent event tenantID with _ | err
    case some => trivial
    refine meets_ask_bind.mpr ⟨trivial, fun answer _ => ?_⟩
    rcases answer with _ | err
    case some => trivial
    have delivered : Delivered (history ++ [⟨.publish w.topic (envelope event), none⟩])
        event.tenantID event.eventID :=
      ⟨event, w.topic, (claimed event List.mem_cons_self).append _, rfl, rfl, by simp⟩
    refine (markOutboxPublished_meets delivered).bind fun seen result kept => ?_
    rcases result with _ | err
    case some => trivial
    obtain ⟨later, rfl⟩ := kept
    refine ih _ _ fun event present => ?_
    exact ((claimed event (by simp [present])).append _).append _

theorem publishOnce_meets (w : OutboxWorker) (tenantID : String) :
    Meets (onHistory anyAnswer guar) (fun _ _ => True) [] (publishOnce w tenantID) := by
  unfold publishOnce
  split
  · trivial
  refine (claimOutbox_meets tenantID w.owner w.batchSize w.lease []).bind
    fun seen result claimed => ?_
  obtain ⟨events, err⟩ := result
  cases err with
  | some err => trivial
  | none => exact publishAll_meets w tenantID 0 events seen claimed

/-! ## Whole runs -/

def rowEnvelope (render : OutboxRow → String) (row : OutboxRow) : Envelope :=
  { eventID := row.eventID
    eventType := row.eventType
    schemaVersion := "v1"
    occurredAt := row.availableAt
    correlationID := row.sagaID
    payload := render row }

abbrev Worker := Thread calls Pass (Nat × Option GoError)

/-- Some worker has published exactly the event of the row, and was told so. -/
def Announced (render : OutboxRow → String) (threads : List Worker) (row : OutboxRow) : Prop :=
  ∃ thread ∈ threads, ∃ topic, ⟨.publish topic (rowEnvelope render row), none⟩ ∈ thread.past

/-- A transaction in which nothing was written yet, by what its thread has seen. -/
inductive Opening : List (Event calls) → Prop
  | begun (before : List (Event calls)) (tenantID : String) :
      Opening (before ++ [⟨.run (.beginTx tenantID), .ok ()⟩])
  | timed (before : List (Event calls)) (tenantID : String) (time : Time) :
      Opening (before ++ [⟨.run (.beginTx tenantID), .ok ()⟩] ++ [⟨.now, time⟩])

theorem Opening.of_snoc (opening : Opening (past ++ [event])) :
    (∃ tenantID, event = ⟨.run (.beginTx tenantID), .ok ()⟩) ∨
      (∃ time, event = ⟨.now, time⟩) ∧ Opening past := by
  generalize whole : past ++ [event] = history at opening
  cases opening with
  | begun before tenantID =>
    obtain ⟨-, last⟩ := List.append_inj' whole rfl
    exact .inl ⟨tenantID, List.singleton_inj.mp last⟩
  | timed before tenantID time =>
    obtain ⟨rfl, last⟩ := List.append_inj' whole rfl
    exact .inr ⟨⟨time, List.singleton_inj.mp last⟩, .begun before tenantID⟩

structure Faithful (render : OutboxRow → String) (config : OutboxConfig) : Prop where
  sound : Sound (Announced render config.threads) config.shared
  read : ∀ thread ∈ config.threads, ∀ time, ⟨.now, time⟩ ∈ thread.past → time ≤ config.shared.clock
  claimed : ∀ thread ∈ config.threads, ∀ event, Claimed thread.past event →
    ∃ entry ∈ config.shared.rows, entry.key = (event.tenantID, event.eventID) ∧
      envelope event = rowEnvelope render entry.row
  opening : ∀ i thread, config.threads[i]? = some thread → Opening thread.past →
    ∀ session, config.shared.session i = some session → session.writes = []

theorem Stepped.keeps {call : Call} (stepped : Stepped s i call after) (present : entry ∈ s.rows) :
    ∃ later ∈ after.rows, Keeps entry later := by
  cases stepped with
  | same | ticked | closed | opened | failed | wrote => exact ⟨entry, present, .refl entry⟩
  | committed session =>
    refine ⟨session.change entry, ?_, session.keeps entry⟩
    show session.change entry ∈ session.visible s.rows
    rw [Session.visible_eq_map]
    exact List.mem_map_of_mem present

theorem Stepped.clock_le {call : Call}
    (stepped : Stepped s i call after) : s.clock ≤ after.clock := by
  cases stepped with
  | ticked time later => exact later
  | same | closed | opened | failed | wrote | committed => exact le_rfl

theorem claimed_of_exec {s after : OutboxState}
    (done : s.exec render i (.run (.claim tenantID now limit owner leasedUntil)) choice =
      some (.ok events, after)) (returned : event ∈ events) :
    ∃ entry ∈ s.rows, entry.key = (event.tenantID, event.eventID) ∧
      envelope event = rowEnvelope render entry.row := by
  cases choice with
  | picks keys =>
    obtain ⟨session, -, done⟩ := Option.bind_eq_some_iff.mp done
    dsimp only at done
    split at done
    · cases done
      obtain ⟨shown, chosen, rfl⟩ := List.mem_map.mp returned
      obtain ⟨key, -, found⟩ := List.mem_filterMap.mp chosen
      have visible := (List.mem_filter.mp (List.mem_of_find?_eq_some found)).1
      rw [Session.visible_eq_map] at visible
      obtain ⟨entry, present, rfl⟩ := List.mem_map.mp visible
      refine ⟨entry, present, (session.keeps entry).key.symm, ?_⟩
      rw [← (session.keeps entry).1]
      rfl
    · cases done
  | ok | reads | publishes | loses => cases done
  | fails text =>
    simp only [OutboxState.exec, Option.some.injEq, Prod.mk.injEq] at done
    cases done.1

theorem read_of_exec {s after : OutboxState}
    (done : s.exec render i .now choice = some (time, after)) : time ≤ after.clock := by
  cases choice with
  | reads answer =>
    simp only [OutboxState.exec] at done
    split at done
    · cases done
      exact le_rfl
    · cases done
  | ok | picks | publishes | loses | fails => cases done

section
variable {render : OutboxRow → String} {after : OutboxState} {threads : List Worker} {i : Nat}
  {label : Pass} {past : List (Event calls)} {request : Call}
  {next : request.Answer → Work (Nat × Option GoError)} {answer : request.Answer}

abbrev answered (threads : List Worker) (i : Nat) (label : Pass) (past : List (Event calls))
    (request : Call) (next : request.Answer → Work (Nat × Option GoError))
    (answer : request.Answer) : List Worker :=
  threads.set i ⟨label, past ++ [⟨request, answer⟩], next answer⟩

theorem Announced.answered (active : threads[i]? = some ⟨label, past, .call request next⟩)
    (announced : Announced render threads row) :
    Announced render (answered threads i label past request next answer) row := by
  obtain ⟨thread, present, topic, published⟩ := announced
  obtain ⟨j, found⟩ := List.mem_iff_getElem?.mp present
  by_cases same : i = j
  · subst same
    obtain rfl := Option.some.inj (found.symm.trans active)
    obtain ⟨bound, -⟩ := List.getElem?_eq_some_iff.mp active
    exact ⟨_, List.mem_of_getElem? (List.getElem?_set_self bound), topic,
      List.mem_append_left _ published⟩
  · exact ⟨thread, List.mem_of_getElem? ((List.getElem?_set_ne same).trans found), topic, published⟩

section
variable (faithful : Faithful render ⟨s, threads⟩)
  (active : threads[i]? = some ⟨label, past, .call request next⟩)
include faithful active

/-- A write that keeps the contract of the workers is due when it is made. -/
theorem Faithful.due (allowed : guar past request) (writes : Writes request write)
    (open_ : s.session i = some session) (fits : Fits s i session write) :
    session.writes = [] ∧ Due (Announced render threads) s.rows s.clock write := by
  have present := List.mem_of_getElem? active
  have fresh : ∀ tenantID now, Begun past tenantID now → session.writes = [] := by
    rintro tenantID now ⟨before, rfl⟩
    exact faithful.opening i _ active (.timed before tenantID now) session open_
  have seen : session.writes = [] → session.visible s.rows = s.rows := fun none_ => by
    rw [Session.visible, none_, List.foldl_nil]
  cases writes with
  | claim tenantID now limit owner leasedUntil keys =>
    obtain ⟨begun, positive⟩ := allowed
    have none_ := fresh tenantID now begun
    have read : now ≤ s.clock := by
      obtain ⟨before, rfl⟩ := begun
      exact faithful.read _ present now List.mem_concat_self
    obtain ⟨unique, free⟩ := fits
    rw [seen none_] at free
    exact ⟨none_, read, positive, unique, fun key chosen => (free key chosen).2⟩
  | mark now tenantID eventID owner =>
    obtain ⟨begun, event, topic, claimed, rfl, rfl, published⟩ := allowed
    obtain ⟨entry, there, key, same⟩ := faithful.claimed _ present event claimed
    rw [same] at published
    exact ⟨fresh _ now begun, entry, there, key, _, present, topic, published⟩

theorem Faithful.sound_exec (allowed : guar past request)
    (stepped : Stepped s i request after) : Sound (Announced render threads) after := by
  have sound := faithful.sound
  cases stepped with
  | same => exact sound
  | ticked time later => exact sound.mono (fun _ known => known) later
  | closed => exact sound.close i
  | opened tenantID => exact sound.put (.inl rfl) fun _ _ _ _ _ held => absurd held List.not_mem_nil
  | failed statement session found =>
    have open_ := found
    exact sound.put (sound.once i session open_) fun j other there different =>
      sound.apart i j session other open_ there different.symm
  | wrote _ session write writes found fits =>
    obtain ⟨none_, due⟩ := faithful.due active allowed writes found fits
    have locks : ∀ key ∈ write.locks, s.lockedElsewhere i key = false := by
      intro key held
      cases write with
      | lease keys owner now leasedUntil => exact (fits.2 key held).1
      | publish target owner now =>
        rw [List.mem_singleton.mp held]
        exact fits.1
    refine sound.put (.inr ⟨write, by rw [none_, List.nil_append], due⟩)
      fun j other there different key held => ?_
    rw [Session.locks, none_, List.nil_append, List.flatMap_singleton] at held
    exact notMem_locks_of_free (locks key held) there different
  | committed session found => exact sound.commit found

theorem Faithful.opening_exec (done : s.exec render i request choice = some (answer, after))
    (opening : Opening (past ++ [⟨request, answer⟩])) (open_ : after.session i = some session) :
    session.writes = [] := by
  rcases opening.of_snoc with ⟨tenantID, began⟩ | ⟨⟨time, read⟩, before⟩
  · cases began
    cases choice with
    | ok =>
      cases done
      rcases Sessions.get_put_cases open_ with ⟨-, rfl⟩ | ⟨different, -⟩
      · rfl
      · exact absurd rfl different
    | fails text =>
      simp only [OutboxState.exec, Option.some.injEq, Prod.mk.injEq] at done
      cases done.1
    | reads | picks | publishes | loses => cases done
  cases read
  have unchanged : after.session i = s.session i := by
    cases choice with
    | reads answer =>
      simp only [OutboxState.exec] at done
      split at done
      · cases done
        rfl
      · cases done
    | ok | picks | publishes | loses | fails => cases done
  exact faithful.opening i _ active before session (unchanged.symm.trans open_)

end

theorem Stepped.mem_sessions (stepped : Stepped s i request after)
    (open_ : after.session j = some session) (different : i ≠ j) : s.session j = some session := by
  cases stepped with
  | same | ticked => exact open_
  | closed | committed => exact (Sessions.get_of_get_close open_).2
  | opened | failed | wrote =>
    rcases Sessions.get_put_cases open_ with ⟨rfl, -⟩ | ⟨-, open_⟩
    · exact absurd rfl different
    · exact open_

theorem Faithful.exec (faithful : Faithful render ⟨s, threads⟩)
    (active : threads[i]? = some ⟨label, past, .call request next⟩) (allowed : guar past request)
    (done : s.exec render i request choice = some (answer, after)) :
    Faithful render ⟨after, answered threads i label past request next answer⟩ := by
  have stepped := stepped_of_exec done
  have present := List.mem_of_getElem? active
  refine ⟨?_, ?_, ?_, ?_⟩
  · exact (faithful.sound_exec active allowed stepped).mono (fun _ => Announced.answered active) le_rfl
  · intro thread there time seen
    rcases List.mem_or_eq_of_mem_set there with old | rfl
    · exact (faithful.read thread old time seen).trans stepped.clock_le
    rcases List.mem_append.mp seen with before | last
    · exact (faithful.read _ present time before).trans stepped.clock_le
    · cases List.mem_singleton.mp last
      exact read_of_exec done
  · intro thread there event claimed
    have kept : ∀ thread ∈ threads, Claimed thread.past event →
        ∃ entry ∈ after.rows, entry.key = (event.tenantID, event.eventID) ∧
          envelope event = rowEnvelope render entry.row := by
      intro thread there claimed
      obtain ⟨entry, old, key, same⟩ := faithful.claimed thread there event claimed
      obtain ⟨later, new, keeps⟩ := stepped.keeps old
      exact ⟨later, new, keeps.key.trans key, by rw [same, keeps.1]⟩
    rcases List.mem_or_eq_of_mem_set there with old | rfl
    · exact kept thread old claimed
    obtain ⟨tenantID, now, limit, owner, leasedUntil, events, seen, returned⟩ := claimed
    rcases List.mem_append.mp seen with before | last
    · exact kept _ present ⟨tenantID, now, limit, owner, leasedUntil, events, before, returned⟩
    cases List.mem_singleton.mp last
    obtain ⟨entry, old, key, same⟩ := claimed_of_exec done returned
    obtain ⟨later, new, keeps⟩ := stepped.keeps old
    exact ⟨later, new, keeps.key.trans key, by rw [same, keeps.1]⟩
  intro j thread found opening session open_
  by_cases same : i = j
  · subst same
    obtain ⟨bound, -⟩ := List.getElem?_eq_some_iff.mp active
    rw [List.getElem?_set_self bound] at found
    cases found
    exact faithful.opening_exec active done opening open_
  · rw [List.getElem?_set_ne same] at found
    exact faithful.opening j thread found opening session (stepped.mem_sessions open_ same)

end

variable {config : OutboxConfig}

theorem Faithful.spawn
    (faithful : Faithful render config) (label : Pass) (program : Work (Nat × Option GoError)) :
    Faithful render { config with threads := config.threads ++ [⟨label, [], program⟩] } := by
  refine ⟨?_, ?_, ?_, ?_⟩
  · refine faithful.sound.mono (fun row announced => ?_) le_rfl
    obtain ⟨thread, present, published⟩ := announced
    exact ⟨thread, by simp [present], published⟩
  · intro thread present time seen
    rcases mem_concat.mp present with old | rfl
    · exact faithful.read thread old time seen
    · cases seen
  · intro thread present event claimed
    rcases mem_concat.mp present with old | rfl
    · exact faithful.claimed thread old event claimed
    · obtain ⟨_, _, _, _, _, _, seen, -⟩ := claimed
      cases seen
  intro i thread found opening session open_
  by_cases old : i < config.threads.length
  · rw [List.getElem?_append_left old] at found
    exact faithful.opening i thread found opening session open_
  rw [List.getElem?_append_right (not_lt.mp old)] at found
  cases List.mem_singleton.mp (List.mem_of_getElem? found)
  generalize nothing : ([] : List (Event calls)) = past at opening
  cases opening with
  | begun | timed => exact absurd nothing (by simp)

theorem Faithful.happens (faithful : Faithful render config)
    (changed : config.shared.happens event = some shared) :
    Faithful render { config with shared := shared } := by
  cases event with
  | inserted row createdAt =>
    simp only [OutboxState.happens] at changed
    split at changed
    · rename_i fresh
      cases changed
      have free : ∀ entry ∈ config.shared.rows, entry.key ≠ rowKey row := by simpa using fresh
      refine ⟨faithful.sound.insert free createdAt, faithful.read, ?_, faithful.opening⟩
      intro thread present event claimed
      obtain ⟨entry, there, same⟩ := faithful.claimed thread present event claimed
      exact ⟨entry, by simp [there], same⟩
    · cases changed
  | lost i =>
    cases changed
    refine ⟨faithful.sound.close i, faithful.read, faithful.claimed, ?_⟩
    exact fun j thread found opening session open_ =>
      faithful.opening j thread found opening session (Sessions.get_of_get_close open_).2

theorem guar_of_active (reached : (workers render).Reaches emptyOutbox config) {i : Nat}
    (active : config.threads[i]? = some ⟨label, past, .call request next⟩)
    (answer : request.Answer) : guar past request := by
  obtain ⟨shared, program, spawned, ran⟩ :=
    reached.run_of_thread rfl (List.mem_of_getElem? active)
  cases spawned
  have meets := publishOnce_meets label.worker label.tenantID
  exact (meets.run_history (ran.snoc answer)).1 past ⟨request, answer⟩ [] rfl

theorem faithful_of_reaches
    (reached : (workers render).Reaches emptyOutbox config) : Faithful render config := by
  induction reached with
  | refl =>
    refine ⟨sound_empty _, ?_, ?_, ?_⟩
    · exact fun _ present => absurd present List.not_mem_nil
    · exact fun _ present => absurd present List.not_mem_nil
    · exact fun _ _ found => absurd found nofun
  | @tail middle later action before taken faithful =>
    rcases Machine.next_cases taken with ⟨label, program, -, rfl⟩ |
      ⟨i, label, past, request, next, choice, answer, shared, active, done, rfl⟩ |
      ⟨event, shared, changed, rfl⟩
    · exact faithful.spawn label program
    · exact faithful.exec active (guar_of_active before active answer) done
    · exact faithful.happens changed

/-- No step loses or changes an event. -/
theorem keeps_of_next (taken : (workers render).next config action = some later)
    (present : entry ∈ config.shared.rows) : ∃ after ∈ later.shared.rows, Keeps entry after := by
  rcases Machine.next_cases taken with ⟨label, program, -, rfl⟩ |
    ⟨i, label, past, request, next, choice, answer, shared, active, done, rfl⟩ |
    ⟨event, shared, changed, rfl⟩
  · exact ⟨entry, present, .refl entry⟩
  · exact (stepped_of_exec done).keeps present
  cases event with
  | inserted row createdAt =>
    simp only [workers, OutboxState.happens] at changed
    split at changed
    · cases changed
      exact ⟨entry, by simp [present], .refl entry⟩
    · cases changed
  | lost i =>
    cases changed
    exact ⟨entry, present, .refl entry⟩

/-- An event that is not published and whose leases are over can be claimed. -/
theorem Orderly.claimable {announced : OutboxRow → Prop}
    (orderly : Orderly announced rows clock leases) (present : entry ∈ rows)
    (unpublished : entry.publishedAt = none) (available : entry.row.availableAt ≤ now)
    (lapsed : ∀ lease ∈ leases, lease.key = entry.key → lease.until_ < now) :
    entry.claimable entry.row.tenantID now = true := by
  have expired : entry.leasedUntil.all (· < now) = true := by
    cases held : entry.leasedUntil with
    | none => rfl
    | some time =>
      obtain ⟨lease, granted, key, rfl⟩ := orderly.leased entry present unpublished time held
      simpa using lapsed lease granted key
  simp [Entry.claimable, unpublished, available, expired]

/-- Two leases of one event do not run at the same time. -/
theorem Orderly.lease_unique {announced : OutboxRow → Prop}
    (orderly : Orderly announced rows clock leases) {m n : Nat} (one : leases[m]? = some first)
    (two : leases[n]? = some second) (key : first.key = second.key)
    (firstRuns : clock ≤ first.until_) (secondRuns : clock ≤ second.until_) : m = n := by
  -- the earlier of two leases ended before the later began, so before now
  have ended : ∀ {m n : Nat} {earlier later : Lease}, leases[m]? = some earlier →
      leases[n]? = some later → earlier.key = later.key → m < n → earlier.until_ < clock := by
    intro m n earlier later one two same before
    obtain ⟨_, rfl⟩ := List.getElem?_eq_some_iff.mp one
    obtain ⟨_, rfl⟩ := List.getElem?_eq_some_iff.mp two
    have apart := List.pairwise_iff_getElem.mp orderly.spaced m n _ _ before same
    exact lt_of_lt_of_le apart (orderly.covered _ (List.getElem_mem _)).1
  rcases Nat.lt_trichotomy m n with before | same | behind
  · exact absurd (ended one two key before) (not_lt.mpr firstRuns)
  · exact same
  · exact absurd (ended two one key.symm behind) (not_lt.mpr secondRuns)

/-- In every run of any number of workers: a row is marked as published only after
exactly its event was published; no step loses or changes an event or takes back
or resets its publication; an unpublished event whose leases are over can be
claimed; and at most one lease of an event has not ended. -/
theorem outbox_events_are_delivered {render : OutboxRow → String} {config : OutboxConfig}
    (reached : (workers render).Reaches emptyOutbox config) :
    (∀ entry ∈ config.shared.rows, entry.publishedAt ≠ none →
      Announced render config.threads entry.row) ∧
    (∀ action later, (workers render).next config action = some later →
      ∀ entry ∈ config.shared.rows, ∃ after ∈ later.shared.rows, Keeps entry after) ∧
    (∀ entry ∈ config.shared.rows, entry.publishedAt = none → ∀ now,
      entry.row.availableAt ≤ now →
      (∀ lease ∈ config.shared.leases, lease.key = entry.key → lease.until_ < now) →
      ∀ i, config.shared.lockedElsewhere i entry.key = false →
        entry ∈ config.shared.eligible i { tenantID := entry.row.tenantID } entry.row.tenantID now) ∧
    (∀ (m n : Nat) (first second : Lease), config.shared.leases[m]? = some first →
      config.shared.leases[n]? = some second → first.key = second.key →
      config.shared.clock ≤ first.until_ → config.shared.clock ≤ second.until_ → m = n) := by
  have orderly := (faithful_of_reaches reached).sound.orderly
  refine ⟨orderly.published, fun action later taken entry => keeps_of_next taken, ?_, ?_⟩
  · intro entry present unpublished now available lapsed i free
    have claimable := orderly.claimable present unpublished available lapsed
    rw [OutboxState.eligible, List.mem_filter]
    exact ⟨present, by simp [claimable, free]⟩
  · intro m n first second one two key firstRuns secondRuns
    exact orderly.lease_unique one two key firstRuns secondRuns

def emptyEvent : OutboxRow where
  tenantID := "tenant-a"
  eventID := "saga-1:1"
  sagaID := "saga-1"
  stage := .received
  eventType := "umojaflowos.settlement.saga-transition.v1"
  payload := "\x7b\x7d"
  payloadSHA256 := payloadDigest (bytes "\x7b\x7d")
  reconciliationRunID := ""
  availableAt := 0
  payloadOk := by decide
  digestOk := validDigest_payloadDigest _

/-- Two workers: the first stops after its publication, the second claims the event
again when the lease is over, and publishes and marks it. -/
def takeoverSchedule : List (Action Pass Choice OutboxChange) :=
  [.env (.inserted emptyEvent 1),
    .spawn ⟨⟨true, true, "settlements", "worker-1", 10, 5⟩, "tenant-a"⟩,
    .spawn ⟨⟨true, true, "settlements", "worker-2", 10, 5⟩, "tenant-a"⟩,
    .exec 0 .ok, .exec 0 (.reads 2), .exec 0 (.picks [("tenant-a", "saga-1:1")]), .exec 0 .ok,
    .exec 0 .ok, .exec 0 (.publishes none),
    .exec 1 .ok, .exec 1 (.reads 8), .exec 1 (.picks [("tenant-a", "saga-1:1")]), .exec 1 .ok,
    .exec 1 .ok, .exec 1 (.publishes none),
    .exec 1 .ok, .exec 1 (.reads 9), .exec 1 .ok, .exec 1 .ok]

/-- An event whose first worker stops is delivered by the second. -/
theorem abandoned_event_is_delivered :
    ∃ config, (workers OutboxRow.payload).Reaches emptyOutbox config ∧
      config.shared.leases.length = 2 ∧
      ∃ entry ∈ config.shared.rows, entry.publishedAt = some 9 ∧
        Announced OutboxRow.payload config.threads entry.row := by
  have played : ∃ config, (workers OutboxRow.payload).Reaches emptyOutbox config ∧
      config.shared.leases.length = 2 ∧
      ∃ entry ∈ config.shared.rows, entry.publishedAt = some 9 :=
    Machine.exists_of_replay takeoverSchedule (by decide +kernel)
  obtain ⟨config, reached, two, entry, present, published⟩ := played
  have announced := (outbox_events_are_delivered reached).1 entry present (by simp [published])
  exact ⟨config, reached, two, entry, present, published, announced⟩

end UmojaFlowOS.Settlement.Outbox
