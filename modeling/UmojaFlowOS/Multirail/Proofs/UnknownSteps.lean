import UmojaFlowOS.Multirail.Proofs.UnknownContract

/-!
# What one statement does to the tables

Everything a call can do to the tables of unknown states, with what its answer tells.
-/

namespace UmojaFlowOS.Multirail

open Relational

/-- An answer from which a caller learns nothing about the tables. -/
def Silent (call : StoreCall) (answer : call.Answer) : Prop :=
  ∀ (phase : Phase) (facts : Facts), phase.after ⟨call, answer⟩ = .outside ∧
    (facts.after ⟨call, answer⟩).claim = facts.claim ∧
    (facts.after ⟨call, answer⟩).released = facts.released

inductive StoreEffect (s : Tables) (i : Nat) : (call : StoreCall) → call.Answer → Tables → Prop
  | idle (told : Silent call answer) : StoreEffect s i call answer s
  | spoils (told : Silent call answer) : StoreEffect s i call answer (s.spoil i)
  | closes (told : Silent call answer) : StoreEffect s i call answer (s.close i)
  | begins : StoreEffect s i .beginTx none { s with sessions := s.sessions.put i {} }
  | enqueues (open_ : s.live i = some session)
      (alone : s.sessions.elsewhere i (Session.enqueues state.intent.idempotencyKey) = false)
      (absent : Tables.row? (session.visible s.rows) state.intent.idempotencyKey = none) :
      StoreEffect s i (.insertUnknown state digest due) (.ok 1)
        (s.write i session (.enqueue (.new state digest due)))
  | present : StoreEffect s i (.insertUnknown state digest due) (.ok 0) s
  | binds : StoreEffect s i (.selectBinding key) (.ok existing) s
  | claims (free : s.held key = false)
      (found : s.rows.queue.find? (QueueRow.claimable key now) = some row)
      (told : answer = .ok ((row.claimed leaseUntil lease).scanned lease) ∨
        ∃ text, answer = .error (.database text)) :
      StoreEffect s i (.claimRow key now leaseUntil lease) answer
        (s.setQueue (updateWhere (QueueRow.claimable key now) (QueueRow.claimed leaseUntil lease)
          s.rows.queue))
  | reschedules (free : s.held key = false)
      (told : answer = .ok (s.rows.queue.countP (QueueRow.heldBy key attempts lease)) ∨
        ∃ text, answer = .error (.database text)) :
      StoreEffect s i (.rescheduleRow key attempts lease next reason) answer
        (s.setQueue (updateWhere (QueueRow.heldBy key attempts lease)
          (QueueRow.rescheduled next reason) s.rows.queue))
  | decides (open_ : s.live i = some session)
      (alone : s.sessions.elsewhere i (Session.decides result) = false)
      (fresh : (session.visible s.rows).decisions.any (·.clashes result) = false) :
      StoreEffect s i (.insertDecision result) (.ok ()) (s.write i session (.decide result.stored))
  | refuses : StoreEffect s i (.insertDecision result) (.error .noRows) s
  | finds (open_ : s.live i = some session)
      (found : Tables.decision? (session.visible s.rows) key attempt = some d) :
      StoreEffect s i (.selectDigest key attempt) (.ok d.evidenceDigest) s
  | resolves (open_ : s.live i = some session)
      (found : (session.visible s.rows).queue.any (QueueRow.heldBy key attempt lease) = true) :
      StoreEffect s i (.resolveRow key attempt lease decidedAt) (.ok 1)
        (s.write i session (.resolve key attempt lease decidedAt))
  | misses : StoreEffect s i (.resolveRow key attempt lease decidedAt) (.ok 0) s
  | confirms {d : ReconciliationResult} (open_ : s.live i = some session)
      (found : Tables.row? (session.visible s.rows) key = some row) :
      StoreEffect s i (.selectResolution key attempt) (.ok (row.resolvedAt, d.evidenceDigest)) s
  | commits (open_ : s.live i = some session) : StoreEffect s i .commit answer (s.commit i session)

section
variable {s : Tables} {i : Nat} {call : StoreCall}

theorem live_bind {α : Type} {body : Session → Option α} {result : α}
    (done : (s.live i).bind body = some result) :
    ∃ session, s.live i = some session ∧ body session = some result :=
  Option.bind_eq_some_iff.mp done

theorem effect_insertUnknown
    (done : s.exec i (.insertUnknown state digest due) .proceeds = some (answer, after)) :
    StoreEffect s i (.insertUnknown state digest due) answer after := by
  obtain ⟨session, open_, done⟩ := live_bind done
  split at done
  · cases done
  rename_i clear
  split at done
  · cases done
    exact .present
  rename_i absent
  cases done
  refine .enqueues open_ ?_ ?_
  · simpa using (not_or.mp clear).2
  · simpa using absent

theorem effect_insertDecision
    (done : s.exec i (.insertDecision result) .proceeds = some (answer, after)) :
    StoreEffect s i (.insertDecision result) answer after := by
  obtain ⟨session, open_, done⟩ := live_bind done
  split at done
  · cases done
  rename_i clear
  split at done
  · cases done
    exact .refuses
  rename_i fresh
  cases done
  refine .decides open_ ?_ ?_
  · simpa using (not_or.mp (not_or.mp clear).2).2
  · simpa using fresh

theorem effect_resolveRow
    (done : s.exec i (.resolveRow key attempt lease decidedAt) .proceeds = some (answer, after)) :
    StoreEffect s i (.resolveRow key attempt lease decidedAt) answer after := by
  obtain ⟨session, open_, done⟩ := live_bind done
  split at done
  · cases done
  split at done
  · rename_i found
    cases done
    exact .resolves open_ found
  · cases done
    exact .misses

theorem effect_claimRow (free : s.held key = false)
    (told : answer = (s.claimRow key now leaseUntil lease).1 ∨
      ∃ text, answer = .error (.database text)) :
    StoreEffect s i (.claimRow key now leaseUntil lease) answer
      (s.claimRow key now leaseUntil lease).2 := by
  unfold Tables.claimRow at told ⊢
  split at told
  · exact .claims free ‹_› told
  rcases told with rfl | ⟨text, rfl⟩
  · exact .idle fun _ _ => ⟨rfl, rfl, rfl⟩
  · exact .idle fun _ _ => ⟨rfl, rfl, rfl⟩

/-- Most answers tell nothing; the statements that do are left for the cases below. -/
theorem effect_of_exec (done : s.exec i call choice = some (answer, after)) :
    StoreEffect s i call answer after := by
  cases call <;> cases choice <;>
    try (cases done; first
      | done | exact .begins | exact .idle fun _ _ => ⟨rfl, rfl, rfl⟩
      | exact .spoils fun _ _ => ⟨rfl, rfl, rfl⟩ | exact .closes fun _ _ => ⟨rfl, rfl, rfl⟩)
  case insertUnknown.proceeds => exact effect_insertUnknown done
  case insertDecision.proceeds => exact effect_insertDecision done
  case resolveRow.proceeds => exact effect_resolveRow done
  case claimRow.proceeds | claimRow.loses =>
    obtain ⟨free, done⟩ := Option.ite_none_left_eq_some.mp done
    obtain ⟨rfl, rfl⟩ := Prod.ext_iff.mp (Option.some.inj done)
    exact effect_claimRow (Bool.not_eq_true _ ▸ free) (by simp)
  case rescheduleRow.proceeds | rescheduleRow.loses =>
    obtain ⟨free, done⟩ := Option.ite_none_left_eq_some.mp done
    cases done
    exact .reschedules (Bool.not_eq_true _ ▸ free) (by simp)
  case commit.proceeds | commit.loses =>
    obtain ⟨session, open_, done⟩ := Option.map_eq_some_iff.mp done
    cases done
    exact .commits open_
  case selectBinding.proceeds key =>
    obtain ⟨session, open_, done⟩ := Option.map_eq_some_iff.mp done
    cases found : Tables.row? (session.visible s.rows) key <;> rw [found] at done <;> cases done
    · exact .idle fun _ _ => ⟨rfl, rfl, rfl⟩
    · exact .binds
  case selectDigest.proceeds key attempt =>
    obtain ⟨session, open_, done⟩ := Option.map_eq_some_iff.mp done
    cases found : Tables.decision? (session.visible s.rows) key attempt <;> rw [found] at done <;>
      cases done
    · exact .idle fun _ _ => ⟨rfl, rfl, rfl⟩
    · exact .finds open_ found
  case selectResolution.proceeds key attempt =>
    obtain ⟨session, open_, done⟩ := Option.map_eq_some_iff.mp done
    unfold resolutionOf at done
    split at done <;> cases done
    · exact .idle fun _ _ => ⟨rfl, rfl, rfl⟩
    · exact .idle fun _ _ => ⟨rfl, rfl, rfl⟩
    · exact .confirms open_ ‹_›

end

end UmojaFlowOS.Multirail
