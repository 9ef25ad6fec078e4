import UmojaFlowOS.LedgerGateway.ServiceContract

/-!
# What the control plane accepts of a reconciliation

The gateway writes an envelope for every pair of a fact and a projection; the parser takes
it when its schema takes both records.
-/

namespace UmojaFlowOS.LedgerGateway

open TypeScript Zod

/-! ## Records -/

def ConfirmedTransferFact.contract (fact : ConfirmedTransferFact) : ContractRecord :=
  ⟨fact.transferID.toNat, fact.correlationID, fact.currency, fact.amountMinor.toNat, fact.postedAt⟩

def PostgresProjectionRecord.contract (projection : PostgresProjectionRecord) : ContractRecord :=
  ⟨projection.transferID.toNat, projection.correlationID, projection.currency,
    projection.amountMinor.toNat, projection.projectedAt⟩

def reconciliationOf (fact : ConfirmedTransferFact) (projection : PostgresProjectionRecord) :
    LedgerReconciliation :=
  ⟨fact.contract, projection.contract, (verifyProjection fact projection).isNone,
    verifyProjection fact projection⟩

namespace ContractRecord

def json (timestampKey : String) (record : ContractRecord) : Json :=
  .object [("transfer_id", .integer record.transferID),
    ("correlation_id", .string record.correlationID), ("currency", .string record.currency),
    ("amount_minor", .integer record.amountMinor), (timestampKey, .string record.timestamp)]

/-- The records that the contract has room for: an id and an amount that are positive and
exact as JavaScript numbers, texts that are not empty, a timestamp with an offset. -/
structure Representable (isDatetime : String → Bool) (record : ContractRecord) : Prop where
  transferID : 1 ≤ record.transferID ∧ record.transferID ≤ maxSafeInteger
  correlationID : record.correlationID ≠ ""
  currency : record.currency ≠ ""
  amountMinor : 1 ≤ record.amountMinor ∧ record.amountMinor ≤ maxSafeInteger
  timestamp : isDatetime record.timestamp = true

instance (isDatetime : String → Bool) (record : ContractRecord) :
    Decidable (record.Representable isDatetime) :=
  decidable_of_iff
    ((1 ≤ record.transferID ∧ record.transferID ≤ maxSafeInteger) ∧ record.correlationID ≠ "" ∧
      record.currency ≠ "" ∧ (1 ≤ record.amountMinor ∧ record.amountMinor ≤ maxSafeInteger) ∧
      isDatetime record.timestamp = true)
    ⟨fun ⟨id, correlation, currency, amount, timestamp⟩ =>
      ⟨id, correlation, currency, amount, timestamp⟩,
     fun taken => ⟨taken.transferID, taken.correlationID, taken.currency, taken.amountMinor,
      taken.timestamp⟩⟩

end ContractRecord

variable {isDatetime : String → Bool} {fact : ConfirmedTransferFact}
  {projection : PostgresProjectionRecord}

theorem safe_from_one :
    (isSafeInteger n = true ∧ 1 ≤ n) ↔ (1 ≤ n ∧ n ≤ maxSafeInteger) := by
  have pred : maxSafeInteger + 1 = 2 ^ 53 := by decide
  rw [isSafeInteger_iff]
  omega

theorem datetime_received (value : String) :
    datetime isDatetime (Json.received (.string value)) =
      if isDatetime value = true then some value else none := by
  rfl

/-- The schema takes a record exactly if it is representable. -/
theorem recordSchema_json [Zod] (record : ContractRecord)
    (fresh : timestampKey ∉ ["transfer_id", "correlation_id", "currency", "amount_minor"]) :
    recordSchema isDatetime timestampKey (record.json timestampKey).received =
      if record.Representable isDatetime then some record else none := by
  obtain ⟨transferID, correlationID, currency, amountMinor, timestamp⟩ := record
  simp only [List.mem_cons, List.not_mem_nil, or_false, not_or] at fresh
  obtain ⟨notID, notCorrelation, notCurrency, notAmount⟩ := fresh
  have keys : strict ["transfer_id", "correlation_id", "currency", "amount_minor", timestampKey]
      (ContractRecord.json timestampKey ⟨transferID, correlationID, currency, amountMinor,
        timestamp⟩).received = _ := strict_received (by simp)
  unfold recordSchema
  rw [keys]
  simp only [Option.bind_eq_bind, Option.bind_some, Json.receivedFields, field_self,
    field_other, ne_eq, notID, notCorrelation, notCurrency, notAmount, not_false_eq_true,
    String.reduceEq, intFrom_received, safe_from_one, datetime_received]
  simp only [Json.received, text_string]
  by_cases taken : ContractRecord.Representable isDatetime
      ⟨transferID, correlationID, currency, amountMinor, timestamp⟩
  · rw [if_pos taken, if_pos taken.transferID, if_neg taken.correlationID, if_neg taken.currency,
      if_pos taken.amountMinor, if_pos taken.timestamp]
    rfl
  rw [if_neg taken, Option.eq_none_iff_forall_ne_some]
  intro other same
  simp only [Option.bind_eq_some_iff, Option.ite_none_right_eq_some,
    Option.ite_none_left_eq_some] at same
  obtain ⟨_, ⟨idFits, _⟩, _, ⟨correlated, _⟩, _, ⟨named, _⟩, _, ⟨amountFits, _⟩, _, ⟨stamped, _⟩, _⟩ :=
    same
  exact taken ⟨idFits, correlated, named, amountFits, stamped⟩

/-! ## The verdict -/

theorem toNat_ne {a b : UInt64} (different : a ≠ b) : (a.toNat : Int) ≠ b.toNat := by
  intro same
  exact different (UInt64.toNat_inj.mp (Int.ofNat_inj.mp same))

theorem agrees_of_reconciled (reconciled : verifyProjection fact projection = none) :
    fact.contract.agrees projection.contract = true := by
  unfold verifyProjection at reconciled
  split at reconciled
  · cases reconciled
  split at reconciled
  · cases reconciled
  split at reconciled
  · cases reconciled
  rename_i _ _ same
  simp only [not_or, not_not] at same
  obtain ⟨id, correlation, currency, amount⟩ := same
  simp [ContractRecord.agrees, ConfirmedTransferFact.contract,
    PostgresProjectionRecord.contract, id, correlation, currency, amount]

theorem differs_of_mismatch (mismatch : verifyProjection fact projection = some .mismatch) :
    fact.contract.agrees projection.contract = false := by
  unfold verifyProjection at mismatch
  split at mismatch
  · cases mismatch
  split at mismatch
  · cases mismatch
  split at mismatch
  · rename_i _ _ different
    simp only [ContractRecord.agrees, ConfirmedTransferFact.contract,
      PostgresProjectionRecord.contract, Bool.and_eq_false_iff]
    rcases different with id | correlation | currency | amount
    · exact .inl (.inl (.inl (decide_eq_false (toNat_ne id))))
    · exact .inl (.inl (.inr (decide_eq_false correlation)))
    · exact .inl (.inr (decide_eq_false currency))
    · exact .inr (decide_eq_false (toNat_ne amount))
  · cases mismatch

/-- None of the parser's checks on the verdict can fail. -/
theorem verdict_consistent :
    ¬ ((verifyProjection fact projection).isNone = true ∧
        fact.contract.agrees projection.contract = false) ∧
      ¬ ((verifyProjection fact projection).isNone = false ∧
        verifyProjection fact projection = none) ∧
      ¬ ((verifyProjection fact projection).isNone = true ∧
        verifyProjection fact projection ≠ none) ∧
      ¬ ((verifyProjection fact projection).isNone = false ∧
        verifyProjection fact projection = some .mismatch ∧
        fact.contract.agrees projection.contract = true) := by
  refine ⟨?_, ?_, ?_, ?_⟩
  · rintro ⟨reconciled, differs⟩
    rw [agrees_of_reconciled (Option.isNone_iff_eq_none.mp reconciled)] at differs
    cases differs
  · rintro ⟨failed, reconciled⟩
    rw [reconciled] at failed
    cases failed
  · rintro ⟨reconciled, reason⟩
    exact reason (Option.isNone_iff_eq_none.mp reconciled)
  rintro ⟨_, mismatch, agrees⟩
  rw [differs_of_mismatch mismatch] at agrees
  cases agrees

/-! ## The envelope -/

theorem reconcileProjection_eq :
    reconcileProjection fact projection =
      .object [("service", .string "umojaflowos-ledger-gateway"),
        ("contract_version", .string "v1"),
        ("envelope_type", .string "umojaflowos.ledger.projection_reconciliation.v1"),
        ("confirmed_fact", fact.contract.json "posted_at"),
        ("projection", projection.contract.json "projected_at"),
        ("reconciled", .bool (verifyProjection fact projection).isNone),
        ("discrepancy_reason",
          (verifyProjection fact projection).elim .null fun reason => .string reason.text)] := rfl

theorem record_without_authority (record : ContractRecord)
    (allowed : allowedKey timestampKey = true) :
    ¬ CarriesAuthority (record.json timestampKey).received := by
  refine object_without_authority ?_ ?_
  · simp only [Json.receivedFields, List.map_cons, List.map_nil, List.all_cons, List.all_nil, allowed]
    decide +kernel
  · simp [Json.receivedFields, Json.received]

theorem envelope_without_authority :
    assertNoExecutionAuthority (reconcileProjection fact projection).received = .ok () := by
  rw [reconcileProjection_eq]
  refine assert_ok (object_without_authority ?_ ?_)
  · simp only [Json.receivedFields, List.map_cons, List.map_nil]
    decide +kernel
  have first : ¬ CarriesAuthority (fact.contract.json "posted_at").received :=
    record_without_authority _ (by decide +kernel)
  have second : ¬ CarriesAuthority (projection.contract.json "projected_at").received :=
    record_without_authority _ (by decide +kernel)
  cases verifyProjection fact projection <;>
    simp [Json.receivedFields, Json.received, first, second]

theorem discrepancy_received [Zod] (discrepancy : Option ReconciliationError) :
    nullable (oneOf [("INCOMPLETE_CONFIRMED_FACT", .incompleteConfirmedFact),
        ("INCOMPLETE_PROJECTION", .incompleteProjection), ("MISMATCH", .mismatch)])
      (discrepancy.elim .null fun reason => Json.string reason.text).received =
      some discrepancy := by
  rcases discrepancy with _ | reason
  · exact nullable_null _
  · rw [Option.elim_some, Json.received, nullable_other _ (.string _) (by simp), oneOf_string]
    cases reason <;> rfl

theorem reconciliationSchema_received [Zod] :
    reconciliationSchema isDatetime (reconcileProjection fact projection).received =
      if fact.contract.Representable isDatetime ∧ projection.contract.Representable isDatetime then
        some (reconciliationOf fact projection) else none := by
  rw [reconcileProjection_eq]
  unfold reconciliationSchema
  rw [strict_received (by simp only [List.map_cons, List.map_nil]; decide)]
  simp only [Option.bind_eq_bind, Option.bind_some, Json.receivedFields, field_self,
    field_other, ne_eq, not_false_eq_true, String.reduceEq, discrepancy_received, literal_received,
    recordSchema_json fact.contract (show "posted_at" ∉ _ by decide),
    recordSchema_json projection.contract (show "projected_at" ∉ _ by decide)]
  rw [Json.received, boolean_bool]
  by_cases factTaken : fact.contract.Representable isDatetime
  · by_cases projectionTaken : projection.contract.Representable isDatetime
    · rw [if_pos factTaken, if_pos projectionTaken, if_pos ⟨factTaken, projectionTaken⟩]
      rfl
    · rw [if_pos factTaken, if_neg projectionTaken, if_neg fun both => projectionTaken both.2]
      rfl
  have refused : ¬ (fact.contract.Representable isDatetime ∧
      projection.contract.Representable isDatetime) := fun both => factTaken both.1
  rw [if_neg factTaken, if_neg refused]
  rfl

theorem parseRustLedgerReconciliation_received [Zod] :
    parseRustLedgerReconciliation isDatetime (reconcileProjection fact projection).received =
      if fact.contract.Representable isDatetime ∧ projection.contract.Representable isDatetime then
        .ok (reconciliationOf fact projection) else .error .schema := by
  unfold parseRustLedgerReconciliation
  rw [envelope_without_authority, parse, reconciliationSchema_received]
  split
  · obtain ⟨agreement, reason, success, mismatch⟩ := @verdict_consistent fact projection
    show (if _ then _ else _) = _
    rw [reconciliationOf, if_neg agreement, if_neg reason, if_neg success, if_neg mismatch]
  · rfl

/-- An envelope of the gateway is accepted, with the ids, amounts and verdict that the gateway
wrote, exactly when the contract has room for both records. -/
theorem reconciliation_accepted_iff [Zod] (isDatetime : String → Bool) (fact : ConfirmedTransferFact)
    (projection : PostgresProjectionRecord) :
    parseRustLedgerReconciliation isDatetime (reconcileProjection fact projection).received =
        .ok (reconciliationOf fact projection) ↔
      fact.contract.Representable isDatetime ∧ projection.contract.Representable isDatetime := by
  rw [parseRustLedgerReconciliation_received]
  by_cases room : fact.contract.Representable isDatetime ∧
      projection.contract.Representable isDatetime
  · rw [if_pos room]
    exact ⟨fun _ => room, fun _ => rfl⟩
  · rw [if_neg room]
    exact ⟨fun accepted => absurd accepted (by simp), fun both => absurd both room⟩

/-- A projection that was never written: the gateway reports `INCOMPLETE_PROJECTION`, and the
schema refuses the report for the zero in it. -/
theorem incomplete_projection_refused :
    verifyProjection ⟨7, "corr-1", "KES", 100, "2026-01-01T00:00:00Z"⟩
        ⟨0, "corr-1", "KES", 100, "2026-01-01T00:00:01Z"⟩ = some .incompleteProjection ∧
      @parseRustLedgerReconciliation refusing (fun _ => true)
        (reconcileProjection ⟨7, "corr-1", "KES", 100, "2026-01-01T00:00:00Z"⟩
          ⟨0, "corr-1", "KES", 100, "2026-01-01T00:00:01Z"⟩).received = .error .schema := by
  constructor
  · decide
  · rw [@parseRustLedgerReconciliation_received _ _ _ refusing, if_neg (by decide)]

end UmojaFlowOS.LedgerGateway
