import UmojaFlowOS.Attestation.Proofs.QueueContract

/-!
# What the statements of the attestation queue do

Every answer that a caller of the queue is given, with the state it leaves.
-/

namespace UmojaFlowOS.Attestation

open Interaction Relational

/-- After this answer the caller is outside of a transaction, and has claimed nothing. -/
def Ends (event : Event queueCalls) : Prop :=
  ∀ phase : ClaimPhase, phase.after event = .outside ∧ phase.claims event = []

/-- The answer tells nothing of a transaction, unless that it is over. -/
def Idle (event : Event queueCalls) : Prop :=
  ∀ phase : ClaimPhase,
    (phase.after event = phase ∨ phase.after event = .outside) ∧ phase.claims event = []

inductive GivesUp : QueueCall → (ItemRow → ItemRow) → Prop
  | unknown (lease : LeaseKey) (next : Time) (reason : String) :
      GivesUp (.markUnknown lease next reason) (ItemRow.unknown next reason)
  | complete (lease : LeaseKey) (attestationID : String) :
      GivesUp (.markComplete lease attestationID) (ItemRow.completed attestationID)

inductive QueueEffect (s : QueueState) (i : Nat) :
    (call : QueueCall) → call.Answer → QueueState → Prop
  | idle (idle : Idle ⟨call, answer⟩) (other : call ≠ .now) : QueueEffect s i call answer s
  | ticks (time : Time) (later : s.clock ≤ time) :
      QueueEffect s i .now time { s with clock := time }
  | spoils (ends : Ends ⟨call, answer⟩) : QueueEffect s i call answer (s.spoil i)
  | closes (ends : Ends ⟨call, answer⟩) : QueueEffect s i call answer (s.close i)
  | begins : QueueEffect s i .beginTx none (s.put i {})
  | inserts {id : String} (key : ∀ row ∈ s.rows, row.idempotencyKey ≠ item.idempotencyKey)
      (fresh : ∀ row ∈ s.rows, row.id ≠ id) : QueueEffect s i (.insertItem item) answer
        { s with rows := s.rows ++ [ItemRow.new id now item] }
  | selects (open_ : s.live i = some session) (present : row ∈ s.rows) (due : row.due now = true)
      (free : s.locked i row.id = false) : QueueEffect s i (.selectDue now) (.ok row.scan)
        (s.put i { session with locks := row.id :: session.locks })
  | misses (absent : ∀ row ∈ s.rows, row.id ≠ lease.id) :
      QueueEffect s i (.claimItem lease leaseUntil) none s
  | claims (open_ : s.live i = some session) (cast : castUUID lease.token = some token)
      (free : s.locked i lease.id = false) :
      QueueEffect s i (.claimItem lease leaseUntil) none (s.put i { session with
        locks := lease.id :: session.locks
        writes := session.writes ++ [⟨lease.id, lease.attempts, token, leaseUntil⟩] })
  | commits (open_ : s.live i = some session) : QueueEffect s i .commit answer (s.commit i session)
  | marks (marks : call.marks = some lease)
      (gives : GivesUp call change) (cast : castUUID lease.token = some token)
      (free : ∀ row ∈ s.rows, row.heldBy lease.id lease.attempts token = true →
        s.held lease.id = false) :
      QueueEffect s i call answer
        { s with rows := updateWhere (ItemRow.heldBy lease.id lease.attempts token) change s.rows }

section
variable {s : QueueState} {i : Nat}

theorem effect_insertItem {id : String} (done : s.insertItem item id now = some (affected, after)) :
    QueueEffect s i (.insertItem item) answer after := by
  unfold QueueState.insertItem at done
  split at done
  · cases done
  split at done
  · cases done
    exact .idle (fun _ => ⟨.inl rfl, rfl⟩) nofun
  rename_i key
  split at done
  · cases done
  rename_i fresh
  cases done
  refine .inserts ?_ ?_
  · simpa using key
  · simpa using fresh

theorem effect_selectDue (picked : Option String)
    (done : s.selectDue i now picked = some (answer, after)) :
    QueueEffect s i (.selectDue now) answer after := by
  obtain ⟨session, open_, done⟩ := Option.bind_eq_some_iff.mp done
  cases picked with
  | none =>
    obtain ⟨-, done⟩ := Option.ite_none_right_eq_some.mp done
    cases done
    exact .idle (fun _ => ⟨.inr rfl, rfl⟩) nofun
  | some id =>
    obtain ⟨row, found, done⟩ := Option.map_eq_some_iff.mp done
    cases done
    obtain ⟨present, facts⟩ := List.mem_filter.mp (List.mem_of_find?_eq_some found)
    obtain ⟨due, free⟩ := Bool.and_eq_true_iff.mp facts
    exact .selects open_ present due (by simpa using free)

theorem effect_claimItem (done : s.claimItem i lease leaseUntil = some (answer, after)) :
    QueueEffect s i (.claimItem lease leaseUntil) answer after := by
  obtain ⟨session, open_, done⟩ := Option.bind_eq_some_iff.mp done
  split at done
  · cases done
    exact .spoils fun _ => ⟨rfl, rfl⟩
  rename_i token cast
  split at done
  · cases done
    exact .spoils fun _ => ⟨rfl, rfl⟩
  split at done
  · split at done
    · cases done
    rename_i free
    cases done
    exact .claims open_ cast (by simpa using free)
  rename_i absent
  cases done
  exact .misses (by simpa using absent)

theorem effect_mark (answer : call.Answer) (marks : call.marks = some lease)
    (gives : GivesUp call change) (done : s.mark lease change = some (given, after)) :
    QueueEffect s i call answer after := by
  unfold QueueState.mark at done
  split at done
  · cases done
    cases gives <;> exact .idle (fun _ => ⟨.inl rfl, rfl⟩) nofun
  rename_i token cast
  dsimp only at done
  split at done
  · cases done
  rename_i free
  cases done
  refine .marks marks gives cast fun row present matched => ?_
  have any : s.rows.any (ItemRow.heldBy lease.id lease.attempts token) = true :=
    List.any_eq_true.mpr ⟨row, present, matched⟩
  simpa [any] using free

theorem effect_markComplete (answer : Except GoError Nat)
    (done : s.markComplete lease attestationID = some (given, after)) :
    QueueEffect s i (.markComplete lease attestationID) answer after := by
  unfold QueueState.markComplete at done
  split at done
  · cases done
    exact .idle (fun _ => ⟨.inl rfl, rfl⟩) nofun
  · exact effect_mark answer rfl (.complete lease attestationID) done

/-- Inversion of one call: whatever the choice, it is one of these effects. -/
theorem queueEffect_of_exec
    (done : s.exec i call choice = some (answer, after)) : QueueEffect s i call answer after := by
  -- Most answers leave the rows alone; the statements that do not are left for the cases below.
  cases call <;> cases choice <;>
    try (cases done; first
      | done | exact .begins | exact .idle (fun _ => ⟨.inl rfl, rfl⟩) nofun
      | exact .idle (fun _ => ⟨.inr rfl, rfl⟩) nofun | exact .spoils fun _ => ⟨rfl, rfl⟩
      | exact .closes fun _ => ⟨rfl, rfl⟩)
  case selectDue.proceeds => exact effect_selectDue none done
  case selectDue.picks id => exact effect_selectDue (some id) done
  case claimItem.proceeds => exact effect_claimItem done
  case markUnknown.proceeds lease next reason =>
    exact effect_mark answer rfl (.unknown lease next reason) done
  case markComplete.proceeds => exact effect_markComplete answer done
  case markUnknown.loses lease next reason _ =>
    obtain ⟨⟨given, left⟩, executed, same⟩ := Option.map_eq_some_iff.mp done
    cases same
    exact effect_mark _ rfl (.unknown lease next reason) executed
  case markComplete.loses =>
    obtain ⟨⟨given, left⟩, executed, same⟩ := Option.map_eq_some_iff.mp done
    cases same
    exact effect_markComplete _ executed
  case insertItem.inserts | insertItem.insertsUnseen =>
    obtain ⟨⟨affected, left⟩, executed, same⟩ := Option.map_eq_some_iff.mp done
    cases same
    exact effect_insertItem executed
  case now.reads =>
    obtain ⟨later, done⟩ := Option.ite_none_right_eq_some.mp done
    cases done
    exact .ticks _ later
  case commit.proceeds | commit.loses =>
    obtain ⟨session, open_, done⟩ := Option.map_eq_some_iff.mp done
    cases done
    exact .commits open_

end

end UmojaFlowOS.Attestation
