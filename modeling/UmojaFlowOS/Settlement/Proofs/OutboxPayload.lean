import UmojaFlowOS.Relational.Jsonb
import UmojaFlowOS.Settlement.OutboxWorker
import UmojaFlowOS.Settlement.Proofs.SagaLog

/-!
# The payload of outbox events

The outbox stores the digest of the text `json.Marshal` has written. The payload
column is `jsonb` (`0062:97`) and gives back its own text of the same object, with
other spacing and order, and this is the text `validateOutboxEvent` hashes.
-/

namespace UmojaFlowOS.Settlement.PostgresSagaStore

open Go Interaction Relational Outbox

def jsonbPayload (row : OutboxRow) : String := (storedText row.payload).getD ""

section
variable (record : SettlementRecord)

/-- The fields of an event body (`postgres_saga.go:476-480`). -/
def eventFields : List (String × JsonValue) :=
  [("intent_id", .str record.intentID), ("payload_sha256", .str record.payloadSHA256),
    ("reconciliation_run_id", .str record.reconciliationRunID), ("saga_id", .str record.sagaID),
    ("schema_version", .str "v1"), ("stage", .str record.stage.text),
    ("tenant_id", .str record.tenantID), ("version", .num record.version)]

/-- A `jsonb` object has its shortest keys first. -/
theorem normalised_eventFields :
    normalised (eventFields record) =
      [("stage", .str record.stage.text), ("saga_id", .str record.sagaID),
        ("version", .num record.version), ("intent_id", .str record.intentID),
        ("tenant_id", .str record.tenantID), ("payload_sha256", .str record.payloadSHA256),
        ("schema_version", .str "v1"),
        ("reconciliation_run_id", .str record.reconciliationRunID)] := by
  simp +decide [normalised, eventFields, insertField]

theorem eventPayload_eq :
    eventPayload record = jsonObject (eventFields record) := rfl

theorem intercalate_starts (separator first : List Char) (rest : List (List Char)) :
    ∃ tail, separator.intercalate (first :: rest) = first ++ tail := by
  cases rest with
  | nil => exact ⟨[], by simp⟩
  | cons second rest => exact ⟨_, by rw [List.intercalate_cons_cons, List.append_assoc]⟩

/-- The two texts of an event body differ in their third character. -/
theorem jsonbText_ne_eventPayload :
    jsonbText (eventFields record) ≠ eventPayload record := by
  have written : ∃ tail, jsonMember ("intent_id", .str record.intentID) = '"' :: 'i' :: tail := by
    have plain : "intent_id".toList.flatMap jsonRune = 'i' :: "ntent_id".toList := by decide
    rw [jsonMember, plain]
    exact ⟨_, rfl⟩
  have stored : ∃ tail, storedMember ("stage", .str record.stage.text) = '"' :: 's' :: tail := by
    have plain : "stage".toList.flatMap jsonbRune = 's' :: "tage".toList := by decide
    rw [storedMember, plain]
    exact ⟨_, rfl⟩
  obtain ⟨writtenTail, written⟩ := written
  obtain ⟨storedTail, stored⟩ := stored
  intro same
  have chars := congrArg String.toList same
  rw [toList_jsonbText, normalised_eventFields, eventPayload_eq, toList_jsonObject, eventFields,
    List.map_cons (f := storedMember), List.map_cons (f := jsonMember), stored, written] at chars
  obtain ⟨tail, starts⟩ := intercalate_starts [','] _ _
  obtain ⟨other, begins⟩ := intercalate_starts [',', ' '] _ _
  rw [starts, begins] at chars
  exact absurd chars (by simp)

end

theorem textOk_of_validDigest (hex : validDigest value = true) : textOk value = true := by
  simp only [validDigest, validLowerHex, Bool.and_eq_true, List.all_eq_true] at hex
  simp only [textOk, Bool.not_eq_true', List.contains_eq_mem, decide_eq_false_iff_not]
  intro nul
  exact absurd (hex.2 _ nul) (by decide)

variable {record : SettlementRecord}

theorem jsonbPayload_outboxRow (tenantID : textOk record.tenantID = true)
    (sagaID : textOk record.sagaID = true) (intentID : textOk record.intentID = true)
    (runID : textOk record.reconciliationRunID = true)
    (digest : validDigest record.payloadSHA256 = true) :
    jsonbPayload (outboxRow record) = jsonbText (eventFields record) := by
  have stage : textOk record.stage.text = true := by cases record.stage <;> decide
  have version : readable false (.str "version") = true := by decide
  have field : ∀ name text, textOk name = true → textOk text = true →
      readableField false (name, .str text) = true := by
    intro name text nameOk ok
    exact Bool.and_eq_true_iff.mpr ⟨nameOk, ok⟩
  have storable : ∀ each ∈ eventFields record, readableField false each = true := by
    simp only [eventFields, List.forall_mem_cons]
    refine ⟨field _ _ ?_ intentID, field _ _ ?_ (textOk_of_validDigest digest), field _ _ ?_ runID,
      field _ _ ?_ sagaID, field _ _ ?_ ?_, field _ _ ?_ stage, field _ _ ?_ tenantID,
      Bool.and_eq_true_iff.mpr ⟨version, rfl⟩, by simp⟩
    all_goals decide
  show (storedText (eventPayload record)).getD "" = _
  rw [eventPayload_eq, storedText_jsonObject storable, Option.getD_some]

theorem Log.written {calls : List (Nat × StoreCall)} (log : Log transitions events calls record) :
    validDigest record.sagaID = true ∧ ∀ event ∈ events, ∃ written, event = outboxRow written ∧
      written.tenantID = record.tenantID ∧ written.sagaID = record.sagaID ∧
      written.intentID = record.intentID ∧ written.payloadSHA256 = record.payloadSHA256 := by
  induction log with
  | reserved caller intent digest now =>
    refine ⟨validDigest_payloadDigest _, fun event listed => ?_⟩
    exact ⟨_, List.mem_singleton.mp listed, rfl, rfl, rfl, rfl⟩
  | changed caller now updatedAt _ _ ih =>
    refine ⟨ih.1, fun event listed => ?_⟩
    rcases List.mem_append.mp listed with old | new
    · exact ih.2 event old
    · exact ⟨_, List.mem_singleton.mp new, rfl, rfl, rfl, rfl⟩
  | claimed updatedAt _ ih => exact ih

/-- Every stored event is one that a store call has written. -/
theorem outboxRow_of_reaches (reached : postgres.Reaches emptyStore config)
    (stored : row ∈ config.shared.db.outbox) :
    ∃ record, row = outboxRow record ∧ validDigest record.sagaID = true ∧
      jsonbPayload row = jsonbText (eventFields record) := by
  have wellFormed := (guarded_of_reaches reached).wellFormed
  obtain ⟨saga, present, same⟩ := List.mem_map.mp (wellFormed.eventSaga row stored)
  obtain ⟨sagaID, events⟩ := ((recorded_of_reaches reached).log saga present).written
  have listed : row ∈ outboxOf config.shared.db saga.sagaKey :=
    List.mem_filter.mpr ⟨stored, decide_eq_true same.symm⟩
  obtain ⟨record, rfl, tenant, id, intent, digest⟩ := events row listed
  have runID : textOk record.reconciliationRunID = true := wellFormed.eventOk _ stored
  have ok := wellFormed.sagaOk saga present
  simp only [SagaRow.ok, SagaRow.passes, Bool.and_eq_true, List.all_cons] at ok
  obtain ⟨⟨⟨⟨⟨⟨⟨⟨⟨digestOk, -⟩, -⟩, -⟩, -⟩, -⟩, -⟩, -⟩, -⟩, tenantOk, sagaOk, intentOk, -⟩ := ok
  refine ⟨record, rfl, id ▸ sagaID, ?_⟩
  rw [← tenant] at tenantOk
  rw [← id] at sagaOk
  rw [← intent] at intentOk
  rw [← digest] at digestOk
  exact jsonbPayload_outboxRow tenantOk sagaOk intentOk runID digestOk

theorem jsonbText_ne_empty (fields : List (String × JsonValue)) : jsonbText fields ≠ "" := by
  intro empty
  have chars := toList_jsonbText fields
  rw [empty] at chars
  cases chars

/-- What is left to be checked of an event that has all its fields. -/
theorem validateOutboxEvent_of_fields (tenant : trimSpace event.tenantID ≠ "")
    (eventID : trimSpace event.eventID ≠ "") (sagaID : trimSpace event.sagaID ≠ "")
    (eventType : trimSpace event.eventType ≠ "") (payload : event.payload ≠ "")
    (digest : validDigest event.payloadSHA256 = true) :
    validateOutboxEvent event event.tenantID =
      if payloadDigest (bytes event.payload) ≠ event.payloadSHA256 then
        some (.new "settlement outbox payload digest mismatch")
      else none := by
  rw [validateOutboxEvent, if_neg]
  · rfl
  · simp [tenant, eventID, sagaID, eventType, payload, digest]

/-- An event that is claimed for its own tenant has all its fields, so its digest
decides. -/
theorem validateOutboxEvent_outboxRow {entry : Entry} (claimed : entry.row = outboxRow record)
    (tenant : trimSpace entry.row.tenantID ≠ "") (sagaID : validDigest record.sagaID = true)
    (payload : jsonbPayload entry.row = jsonbText (eventFields record)) :
    validateOutboxEvent (entry.event jsonbPayload) entry.row.tenantID =
      if payloadDigest (bytes (jsonbPayload entry.row)) ≠ payloadDigest (bytes entry.row.payload) then
        some (.new "settlement outbox payload digest mismatch")
      else none := by
  have fields : validDigest entry.row.eventID = true ∧ validDigest entry.row.sagaID = true ∧
      entry.row.eventType = "umojaflowos.settlement.saga-transition.v1" ∧
      entry.row.payloadSHA256 = payloadDigest (bytes entry.row.payload) := by
    rw [claimed]
    exact ⟨validDigest_payloadDigest _, sagaID, rfl, rfl⟩
  obtain ⟨eventHex, sagaHex, eventType, digest⟩ := fields
  rw [← digest]
  refine validateOutboxEvent_of_fields tenant ?_ ?_ ?_ ?_ entry.row.digestOk
  · exact trimSpace_ne_of_validLowerHex eventHex (by decide)
  · exact trimSpace_ne_of_validLowerHex sagaHex (by decide)
  · show trimSpace entry.row.eventType ≠ ""
    rw [eventType]
    decide
  show jsonbPayload entry.row ≠ ""
  rw [payload]
  exact jsonbText_ne_empty _

/-- An event that `ClaimOutbox` returns for its own tenant passes only if SHA-256
has the same value on two different texts, the one that was written and the one
the column gives back; else it is refused for its digest, and never published. -/
theorem stored_event_passes_iff {config : StoreConfig} (reached : postgres.Reaches emptyStore config)
    {row : OutboxRow} (stored : row ∈ config.shared.db.outbox)
    (tenant : trimSpace row.tenantID ≠ "") {entry : Entry} (claimed : entry.row = row) :
    jsonbPayload row ≠ row.payload ∧
      (validateOutboxEvent (entry.event jsonbPayload) row.tenantID = none ↔
        payloadDigest (bytes (jsonbPayload row)) = payloadDigest (bytes row.payload)) ∧
      (payloadDigest (bytes (jsonbPayload row)) ≠ payloadDigest (bytes row.payload) →
        validateOutboxEvent (entry.event jsonbPayload) row.tenantID =
          some (.new "settlement outbox payload digest mismatch")) := by
  subst claimed
  obtain ⟨record, written, sagaID, payload⟩ := outboxRow_of_reaches reached stored
  have result := validateOutboxEvent_outboxRow written tenant sagaID payload
  refine ⟨?_, ?_, ?_⟩
  · rw [payload, written]
    exact jsonbText_ne_eventPayload record
  · rw [result]
    simp
  · intro differ
    rw [result, if_pos differ]

def depositReserved : SettlementRecord :=
  reservedRecord depositIntent depositIntent.payloadSHA256 1

/-- The event of a reserved deposit is refused for its digest. -/
theorem reserved_event_is_refused :
    validateOutboxEvent
        (({ row := outboxRow depositReserved, createdAt := 1 } : Entry).event jsonbPayload)
        "tenant-a" = some (.new "settlement outbox payload digest mismatch") := by
  have hex : validDigest depositReserved.sagaID = true := validDigest_payloadDigest _
  have payload : jsonbPayload (outboxRow depositReserved) = jsonbText (eventFields depositReserved) :=
    jsonbPayload_outboxRow (by decide) (textOk_of_validDigest hex) (by decide) (by decide)
      (by decide)
  have differ : payloadDigest (bytes (jsonbText (eventFields depositReserved))) ≠
      payloadDigest (bytes (eventPayload depositReserved)) := by
    -- both texts as lists of characters, which the kernel hashes faster than strings
    rw [bytes_eq_flatMap, bytes_eq_flatMap, toList_jsonbText, normalised_eventFields,
      eventPayload_eq, toList_jsonObject, eventFields]
    simp only [List.map_cons, List.map_nil, jsonMember, storedMember, jsonbValue, jsonbString,
      JsonValue.encode, jsonString, String.toList_append, String.toList_ofList, payloadDigest,
      depositReserved, reservedRecord, sagaID, hexEncode]
    decide +kernel
  have result := validateOutboxEvent_outboxRow
    (rfl : ({ row := outboxRow depositReserved, createdAt := 1 } : Entry).row = _) (by decide) hex
    payload
  rw [payload] at result
  exact result.trans (if_pos differ)

def reservationSchedule : List (Action StoreCall SqlChoice StoreEvent) :=
  [.spawn (.reserve depositIntent depositIntent.payloadSHA256), .exec 0 (.reads 1),
    .exec 0 (.begins fun _ => 1), .exec 0 (.reads 1), .exec 0 .ok, .exec 0 .ok, .exec 0 .ok,
    .exec 0 .ok]

/-- A run of the store leaves an event whose text the column does not give back. -/
theorem reserved_event_reads_differently :
    ∃ config, postgres.Reaches emptyStore config ∧ ∃ row ∈ config.shared.db.outbox,
      jsonbPayload row ≠ row.payload ∧
      (validateOutboxEvent (({ row := row, createdAt := 1 } : Entry).event jsonbPayload)
          row.tenantID = none ↔
        payloadDigest (bytes (jsonbPayload row)) = payloadDigest (bytes row.payload)) := by
  have played : ∃ config, postgres.Reaches emptyStore config ∧
      ∃ row ∈ config.shared.db.outbox, trimSpace row.tenantID ≠ "" :=
    Machine.exists_of_replay reservationSchedule (by decide +kernel)
  obtain ⟨config, reached, row, stored, tenant⟩ := played
  obtain ⟨differ, passes, -⟩ := stored_event_passes_iff reached stored tenant
    (rfl : ({ row := row, createdAt := 1 } : Entry).row = row)
  exact ⟨config, reached, row, stored, differ, passes⟩

end UmojaFlowOS.Settlement.PostgresSagaStore
