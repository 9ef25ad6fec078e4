import UmojaFlowOS.Reconciliation.ConsumerSystem
import UmojaFlowOS.Reconciliation.Proofs.ConsumerContract

/-!
# What the statements of a consumer do

Every answer that the database gives a consumer, with the state it leaves.
-/

namespace UmojaFlowOS.Reconciliation

open Interaction Relational

/-- After this answer the consumer is outside of a transaction. -/
def Silent (event : Event consumerCalls) : Prop :=
  ∀ phase : TxPhase, phase.after event = .outside

/-- A statement on the inbox that was answered. -/
def OnInbox : Event consumerCalls → Prop
  | ⟨.insertInbox _ _ _, none⟩ => True
  | ⟨.selectReserved _ _, .ok _⟩ => True
  | ⟨.updateInbox _ _ _, .ok _⟩ => True
  | _ => False

/-- The write changes the inbox only. -/
def IntentWrite.inInbox : IntentWrite → Bool
  | receive _ => true
  | process _ _ => true
  | _ => false

/-- Why `updateIntent` records no decision. -/
inductive Undecided (tables : IntentTables) (p : SettlementReconciledPayload)
    (status : IntentStatus) : Prop
  | open_ (open_ : status.terminal = false)
  | absent (absent : tables.intents.find? (·.key = (p.tenantID, p.idempotencyKey)) = none)
  | clashes (column : Column) (providerRef : String) (now : Int)
      (found : tables.intents.find? (·.key = (p.tenantID, p.idempotencyKey)) = some row)
      (present : decision ∈ tables.decisions)
      (clash : decision.clashes (row.decided p status column providerRef now) = true)

inductive IntentEffect (s : Database) (i : Nat) :
    (call : ConsumerCall) → call.Answer → Database → Prop
  | idle (silent : Silent ⟨call, answer⟩) : IntentEffect s i call answer s
  | spoils (silent : Silent ⟨call, answer⟩) : IntentEffect s i call answer (s.spoil i)
  | closes (silent : Silent ⟨call, answer⟩) : IntentEffect s i call answer (s.close i)
  | begins (tenantID : String) : IntentEffect s i (.beginTx tenantID) none (s.put i {})
  | reads (open_ : s.live i = some session) (inbox : OnInbox ⟨call, answer⟩) :
      IntentEffect s i call answer s
  | writes (open_ : s.live i = some session) (inbox : OnInbox ⟨call, answer⟩)
      (only : write.inInbox = true) : IntentEffect s i call answer (s.write i session write)
  | selects (open_ : s.live i = some session)
      (found : (session.visible s.tables).intents.find? (·.key = (tenantID, key)) = some row)
      (free : s.locked i (tenantID, key) = false) :
      IntentEffect s i (.selectIntent tenantID key) (.ok row.intent)
        (s.put i { session with locks := (tenantID, key) :: session.locks })
  | misses (open_ : s.live i = some session)
      (none_ : (session.visible s.tables).intents.any (IntentRow.boundTo p) = false) :
      IntentEffect s i (.updateIntent p status transferID providerRef now) none s
  | updates (column : Column) (open_ : s.live i = some session)
      (bound : (session.visible s.tables).intents.any (IntentRow.boundTo p) = true)
      (free : s.locked i (p.tenantID, p.idempotencyKey) = false) :
      IntentEffect s i (.updateIntent p status transferID providerRef now) none
        (s.write i { session with locks := (p.tenantID, p.idempotencyKey) :: session.locks }
          (.update p status column providerRef now))
  | skips (open_ : s.live i = some session) (why : Undecided (session.visible s.tables) p status) :
      IntentEffect s i (.insertDecision p status transferID providerRef now) none s
  | decides (column : Column) (open_ : s.live i = some session) (terminal : status.terminal = true)
      (found : (session.visible s.tables).intents.find?
        (·.key = (p.tenantID, p.idempotencyKey)) = some row)
      (fresh : (session.visible s.tables).decisions.any
        (·.clashes (row.decided p status column providerRef now)) = false) :
      IntentEffect s i (.insertDecision p status transferID providerRef now) none
        (s.write i session (.decide (row.decided p status column providerRef now)))
  | commits (open_ : s.live i = some session) : IntentEffect s i .commit answer (s.commit i session)

section
variable {inferred : IntType} {s : Database} {i : Nat}

theorem effect_updateIntent
    (done : s.updateIntent i inferred p status transferID providerRef now = some (answer, after)) :
    IntentEffect s i (.updateIntent p status transferID providerRef now) answer after := by
  obtain ⟨session, open_, done⟩ := Option.bind_eq_some_iff.mp done
  split at done
  · cases done
    exact .spoils fun _ => rfl
  rename_i column written
  split at done
  · rename_i bound
    split at done
    · cases done
    rename_i free
    cases done
    exact .updates column open_ bound (by simpa using free)
  rename_i none_
  cases done
  exact .misses open_ (by simpa using none_)

theorem effect_insertDecision
    (done : s.insertDecision i inferred p status transferID providerRef now =
      some (answer, after)) :
    IntentEffect s i (.insertDecision p status transferID providerRef now) answer after := by
  obtain ⟨session, open_, done⟩ := Option.bind_eq_some_iff.mp done
  split at done
  · cases done
    exact .spoils fun _ => rfl
  rename_i column written
  dsimp only at done
  split at done
  · rename_i nothing
    cases done
    refine .skips open_ ?_
    cases terminal : status.terminal with
    | false => exact .open_ terminal
    | true =>
      refine .absent (Option.eq_none_iff_forall_ne_some.mpr fun row found => ?_)
      exact Option.filter_eq_none_iff.mp nothing row found terminal
  rename_i row filtered
  obtain ⟨found, terminal⟩ := Option.filter_eq_some_iff.mp filtered
  split at done
  · cases done
  split at done
  · rename_i clash
    cases done
    obtain ⟨decision, present, clash⟩ := List.any_eq_true.mp clash
    exact .skips open_ (.clashes column providerRef now found present clash)
  rename_i fresh
  cases done
  exact .decides column open_ terminal found (by simpa using fresh)

/-- Inversion of one call. -/
theorem intentEffect_of_exec (done : s.exec i inferred call choice = some (answer, after)) :
    IntentEffect s i call answer after := by
  -- Most answers leave the database alone; the statements that do not are left for the cases below.
  cases call <;> cases choice <;>
    try (cases done; first
      | done | exact .begins _ | exact .idle fun _ => rfl | exact .spoils fun _ => rfl
      | exact .closes fun _ => rfl)
  case updateIntent.proceeds => exact effect_updateIntent done
  case insertDecision.proceeds => exact effect_insertDecision done
  case insertInbox.proceeds | updateInbox.proceeds =>
    obtain ⟨session, open_, done⟩ := Option.bind_eq_some_iff.mp done
    have done := (Option.ite_none_left_eq_some.mp done).2
    try dsimp only at done
    split at done
    · cases done
      exact .reads open_ trivial
    · cases done
      exact .writes open_ trivial rfl
  case selectReserved.proceeds =>
    obtain ⟨session, open_, done⟩ := Option.map_eq_some_iff.mp done
    cases done
    exact .reads open_ trivial
  case selectIntent.proceeds =>
    obtain ⟨session, open_, done⟩ := Option.bind_eq_some_iff.mp done
    split at done
    · cases done
      exact .idle fun _ => rfl
    rename_i row found
    obtain ⟨free, done⟩ := Option.ite_none_left_eq_some.mp done
    cases done
    exact .selects open_ found (by simpa using free)
  case commit.proceeds | commit.loses =>
    obtain ⟨session, open_, done⟩ := Option.map_eq_some_iff.mp done
    cases done
    exact .commits open_

end

end UmojaFlowOS.Reconciliation
