import UmojaFlowOS.Settlement.Proofs.SagaHistory

/-!
# What a finished store call tells its caller

The answer of a store call in terms of the rows it read. A record that was read is a row
of the committed tables at the moment of the read.
-/

namespace UmojaFlowOS.Settlement.PostgresSagaStore

open Go Interaction Relational

/-! ## Records that were read -/

/-- The record was read from its row under a lock. -/
def Selected (past : List (Event sql)) (record : SettlementRecord) : Prop :=
  ∃ tenantID key, (⟨.run (.selectSagaForUpdate tenantID key), .ok record⟩ : Event sql) ∈ past

theorem Selected.mono
    (selected : Selected past record) (grows : past ⊆ later) : Selected later record := by
  obtain ⟨tenantID, key, present⟩ := selected
  exact ⟨tenantID, key, grows present⟩

theorem selected_of_read
    (read : record ∈ (past.foldl Seen.observe {}).view.reads) : Selected past record := by
  induction past using List.reverseRecOn with
  | nil => cases read
  | append_singleton past event ih =>
    rw [List.foldl_append] at read
    have before : record ∈ (past.foldl Seen.observe {}).view.reads →
        Selected (past ++ [event]) record :=
      fun old => (ih old).mono (List.subset_append_left _ _)
    obtain ⟨request, answer⟩ := event
    cases request with
    | run statement =>
      cases statement with
      | beginTx tenantID =>
        rcases answer with err | _
        · exact before read
        · cases read
      | selectSagaForUpdate tenantID key =>
        rcases answer with err | found
        · exact before read
        rcases mem_concat.mp read with old | rfl
        · exact before old
        · exact ⟨tenantID, key, by simp⟩
      | insertSaga => rcases answer with err | _ | _ <;> exact before read
      | updateSaga | resolveSaga | consumeAuthorization =>
        rcases answer with err | _ | _ <;> exact before read
      | _ => rcases answer with err | _ <;> exact before read
    | _ => exact before read

/-! ## Snapshots

A record that was read or answered is the saga at some version: what the calls
accepted up to that version have made of its reservation. -/

/-- The key callers name the saga of a record by. -/
def recordKey (record : SettlementRecord) : String × String :=
  (record.tenantID, record.idempotencyKey)

def Snapshot (accepted : List (Nat × StoreCall)) (record : SettlementRecord) : Prop :=
  ∃ intent digest,
    Replays ((callsOf accepted (recordKey record)).take record.version) record intent digest

section
variable {accepted : List (Nat × StoreCall)} {record : SettlementRecord}

theorem Snapshot.version_le (snapshot : Snapshot accepted record) :
    record.version ≤ (callsOf accepted (recordKey record)).length := by
  obtain ⟨intent, digest, replays⟩ := snapshot
  have count := replays.count
  rw [List.length_take] at count
  omega

theorem Snapshot.mono (snapshot : Snapshot accepted record)
    (grows : ∀ key, callsOf accepted key <+: callsOf later key) : Snapshot later record := by
  have le := snapshot.version_le
  obtain ⟨intent, digest, replays⟩ := snapshot
  obtain ⟨rest, whole⟩ := grows (recordKey record)
  refine ⟨intent, digest, ?_⟩
  rwa [← whole, List.take_append_of_le_length le]

end

theorem snapshot_of_row (reached : postgres.Reaches emptyStore config)
    (present : row ∈ config.shared.db.sagas) : Snapshot config.shared.accepted row.record := by
  obtain ⟨intent, digest, replays⟩ := ((recorded_of_reaches reached).log row present).replays
  refine ⟨intent, digest, ?_⟩
  have count : (callsOf config.shared.accepted (recordKey row.record)).length = row.record.version :=
    replays.count
  rw [← count, List.take_length]
  exact replays

theorem row_of_selected (reached : postgres.Reaches emptyStore later) {s : StoreState}
    (done : s.exec i label (.run (.selectSagaForUpdate tenantID key)) choice =
      some (.ok record, shared)) (same : later.shared = shared) :
    ∃ row ∈ later.shared.db.sagas, row.record = record := by
  cases executed_of_exec done with
  | queried _ _ session _ rows authorizations open_ unfailed queried =>
    have present : later.shared.session i = some _ :=
      (congrArg (·.session i) same).trans Sessions.get_put_self
    have covers := (guarded_of_reaches reached).covers _ _ present
    obtain ⟨row, locked, read⟩ := covers.reads record (List.mem_append_right _ (by simp))
    exact ⟨row, covers.locks row locked, read⟩

theorem snapshot_of_selected (reached : postgres.Reaches emptyStore config)
    (present : thread ∈ config.threads) (selected : Selected thread.past record) :
    Snapshot config.shared.accepted record := by
  induction reached generalizing thread with
  | refl => cases present
  | @tail config later action reached taken ih =>
    have grows := callsOf_grows (stepped_of_reaches reached taken)
    have reached' := Machine.Reaches.tail action reached taken
    rcases Machine.next_cases taken with ⟨label, program, -, rfl⟩ |
      ⟨i, label, past, request, next, choice, answer, shared, active, done, rfl⟩ |
      ⟨event, shared, -, rfl⟩
    · rcases mem_concat.mp present with old | rfl
      · exact (ih old selected).mono grows
      · obtain ⟨tenantID, key, none_⟩ := selected
        cases none_
    · rcases List.mem_or_eq_of_mem_set present with old | rfl
      · exact (ih old selected).mono grows
      obtain ⟨tenantID, key, event⟩ := selected
      rcases List.mem_append.mp event with old | new
      · exact (ih (List.mem_of_getElem? active) ⟨tenantID, key, old⟩).mono grows
      cases List.mem_singleton.mp new
      obtain ⟨row, stored, rfl⟩ := row_of_selected reached' done rfl
      exact snapshot_of_row reached' stored
    · exact (ih present selected).mono grows

/-! ## Answers as snapshots -/

section
variable {config : StoreConfig} {i : Nat} {past : List (Event sql)}

/-- What `Reserve` returns was a row of the tables. -/
theorem snapshot_of_reserve (reached : postgres.Reaches emptyStore config)
    (finished : config.threads[i]? =
      some ⟨.reserve intent digest, past, .ret ⟨.reserve intent digest, (record, owned, none)⟩⟩) :
    Snapshot config.shared.accepted record ∧
      recordKey record = (intent.tenantID, intent.idempotencyKey) := by
  have present := List.mem_of_getElem? finished
  obtain ⟨-, inserted, found⟩ := answered_of_finished reached present
  cases owned with
  | true =>
    obtain ⟨now, rfl, committed⟩ := inserted rfl rfl
    have first : (callsOf config.shared.accepted (intent.tenantID, intent.idempotencyKey))[0]? =
        some (i, .reserve intent digest) :=
      acknowledged_of_reaches reached i _ _ finished (by rw [committed]; exact List.cons_ne_nil _ _) rfl
    refine ⟨⟨intent, digest, ?_⟩, rfl⟩
    have calls : (callsOf config.shared.accepted
        (recordKey (reservedRecord intent digest now))).take 1 = [(i, .reserve intent digest)] := by
      rw [show recordKey (reservedRecord intent digest now) =
        (intent.tenantID, intent.idempotencyKey) from rfl, List.take_one, List.head?_eq_getElem?, first]
      rfl
    rw [show (reservedRecord intent digest now).version = 1 from rfl, calls]
    exact ⟨rfl, ⟨rfl, rfl, rfl, rfl, rfl, rfl, rfl, rfl, rfl, rfl⟩, rfl, rfl, fun _ => rfl⟩
  | false =>
    obtain ⟨-, read, tenantID, key, -⟩ := found rfl rfl
    exact ⟨snapshot_of_selected reached present (selected_of_read read), by rw [recordKey, tenantID, key]⟩

end

end UmojaFlowOS.Settlement.PostgresSagaStore
