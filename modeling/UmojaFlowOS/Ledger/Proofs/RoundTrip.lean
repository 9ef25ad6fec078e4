import UmojaFlowOS.Ledger.Posting

/-!
# What is created is found

A transfer that `CreateTransfers` hands to TigerBeetle is observed by `LookupTransfer` as it was
given, under a configuration with one currency for each ledger.
-/

namespace UmojaFlowOS.Ledger

open Go Interaction

/-- The currencies of a configuration: keys as `ledgerForCurrency` looks them up, each with a
ledger of its own. -/
structure ClusterConfig.Proper [CaseTables] (config : ClusterConfig) : Prop where
  keys : ∀ entry ∈ config.currencyLedgers, entry.1 ≠ "" ∧ toUpper (trimSpace entry.1) = entry.1
  ledgers : (config.currencyLedgers.map Prod.snd).Nodup
  positive : ∀ entry ∈ config.currencyLedgers, entry.2 ≠ 0

namespace TigerBeetleClient

section
variable [LedgerLibrary] {c : TigerBeetleClient}

theorem currencyFrom_absent (absent : ∀ entry ∈ entries, entry.2 ≠ ledger) (named : currency ≠ "") :
    currencyFrom ledger currency entries = .ok currency := by
  induction entries with
  | nil => simp [currencyFrom, named]
  | cons entry entries ih =>
    rw [List.forall_mem_cons] at absent
    rw [currencyFrom, if_pos absent.1]
    exact ih absent.2

theorem currencyFrom_mem (present : (key, ledger) ∈ entries)
    (ledgers : (entries.map Prod.snd).Nodup) (named : toUpper (trimSpace key) ≠ "") :
    currencyFrom ledger "" entries = .ok (toUpper (trimSpace key)) := by
  induction entries with
  | nil => cases present
  | cons entry entries ih =>
    obtain ⟨configured, other⟩ := entry
    rw [List.map_cons, List.nodup_cons] at ledgers
    rcases List.mem_cons.mp present with same | later
    · cases same
      rw [currencyFrom, if_neg (not_not.mpr rfl), if_neg (not_not.mpr rfl)]
      refine currencyFrom_absent (fun entry member same => ledgers.1 ?_) named
      exact List.mem_map.mpr ⟨entry, member, same⟩
    have differs : other ≠ ledger := by
      rintro rfl
      exact ledgers.1 (List.mem_map.mpr ⟨_, later, rfl⟩)
    rw [currencyFrom, if_pos differs]
    exact ih later ledgers.2

/-- The ledger of a currency leads back to the currency. -/
theorem currency_round_trip (proper : c.config.Proper)
    (found : c.ledgerForCurrency currency = .ok ledger) :
    c.currencyForLedger ledger = .ok (toUpper (trimSpace currency)) := by
  unfold ledgerForCurrency at found
  split at found
  · rename_i other looked
    split_ifs at found
    cases found
    obtain ⟨before, after, split, -⟩ := List.lookup_eq_some_iff.mp looked
    have present : (_, ledger) ∈ c.config.currencyLedgers :=
      split ▸ List.mem_append_right _ List.mem_cons_self
    obtain ⟨named, same⟩ := proper.keys _ present
    have read := currencyFrom_mem present proper.ledgers (same.symm ▸ named)
    rwa [same] at read
  · cases found

/-- What a lookup says of a transfer: no mode is `confirmed`. -/
def asGiven (transfer : Transfer) : TransferObservation :=
  ⟨transfer.id, transfer.pendingID, transfer.debitAccountID, transfer.creditAccountID,
    transfer.amount, toUpper (trimSpace transfer.currency),
    if transfer.mode = "" then "confirmed" else transfer.mode, true⟩

/-- The flags tell the mode. -/
theorem mode_of_flags (done : tigerBeetleTransferFlags transfer = .ok flags) :
    (if flags.voidPendingTransfer then TransferMode.voidPending
      else if flags.postPendingTransfer then .postPending
      else if flags.pending then .pending
      else .confirmed) = TransferMode.normalised transfer.mode := by
  unfold tigerBeetleTransferFlags at done
  dsimp only at done
  split_ifs at done
  all_goals
    cases done
    rw [‹TransferMode.normalised transfer.mode = _›]
    rfl

/-- What is sent for a transfer is reported as the transfer was given. -/
theorem observation_of_mapped (proper : c.config.Proper)
    (mapped : c.mapTransfer transfer = .ok stored) :
    stored.id = Tb.toUint128 transfer.id ∧ transfer.id ≠ 0 ∧
      c.observation stored = .ok (asGiven transfer) := by
  unfold mapTransfer at mapped
  split_ifs at mapped with missing same
  obtain ⟨ledger, found, mapped⟩ := Except.bind_eq_ok mapped
  obtain ⟨flags, mode, mapped⟩ := Except.bind_eq_ok mapped
  cases mapped
  refine ⟨rfl, fun zero => missing (.inl zero), ?_⟩
  simp only [observation, Tb.Uint128.uint64, LedgerLibrary.uint64_toUint128,
    currency_round_trip proper found, Tb.Transfer.transferFlags,
    LedgerLibrary.transferFlags_toUint16, mode_of_flags mode]
  simp [asGiven, TransferMode.normalised, TransferMode.confirmed, pure, Except.pure, bind, Except.bind]

/-- A batch that is accepted was sent as it was mapped. -/
theorem createTransfers_sends (transfers : List Transfer) :
    Meets (onHistory anyAnswer fun _ _ => True) (fun history value => value = none →
      ∃ batch results, ⟨.createTransfers batch, .ok results⟩ ∈ history ∧
        transfers.mapM c.mapTransfer = .ok batch) [] (c.createTransfers transfers) := by
  refine meets_ask_bind.mpr ⟨trivial, fun err _ => ?_⟩
  rcases err with _ | err
  case some => exact nofun
  dsimp only
  split_ifs
  · exact nofun
  · exact nofun
  split
  · exact nofun
  rename_i batch mapped
  refine meets_ask_bind.mpr ⟨trivial, fun results _ => ?_⟩
  rcases results with err | results
  · exact nofun
  dsimp only
  split
  · exact nofun
  refine meets_ask_bind.mpr ⟨trivial, fun err _ => ?_⟩
  cases err with
  | some err => exact nofun
  | none => exact fun _ => ⟨batch, results, by simp, mapped⟩

theorem forall₂_of_mapM (mapped : transfers.mapM c.mapTransfer = .ok batch) :
    List.Forall₂ (fun transfer stored => c.mapTransfer transfer = .ok stored) transfers batch := by
  induction transfers generalizing batch with
  | nil =>
    cases mapped
    exact .nil
  | cons transfer transfers ih =>
    rw [List.mapM_cons] at mapped
    obtain ⟨stored, first, mapped⟩ := Except.bind_eq_ok mapped
    obtain ⟨rest, others, mapped⟩ := Except.bind_eq_ok mapped
    cases mapped
    exact .cons first (ih others)

/-- A record with the values that are reported, so that they fit into 64 bits. -/
def Reported (record : Tb.Transfer) (seen : TransferObservation) : Prop :=
  record.id = Tb.toUint128 seen.id ∧ record.pendingID = Tb.toUint128 seen.pendingID ∧
    record.debitAccountID = Tb.toUint128 seen.debitAccountID ∧
    record.creditAccountID = Tb.toUint128 seen.creditAccountID ∧
    record.amount = Tb.toUint128 seen.amount

theorem reported_of_observation (observed : c.observation record = .ok seen) :
    Reported record seen := by
  unfold observation at observed
  dsimp only at observed
  split at observed
  · cases observed
  rename_i narrow
  obtain ⟨currency, -, same⟩ := Except.bind_eq_ok observed
  simp only [not_or, not_not] at narrow
  obtain ⟨high, pendingHigh, debitHigh, creditHigh, amountHigh⟩ := narrow
  cases same
  exact ⟨(LedgerLibrary.toUint128_uint64 _ high).symm,
    (LedgerLibrary.toUint128_uint64 _ pendingHigh).symm,
    (LedgerLibrary.toUint128_uint64 _ debitHigh).symm,
    (LedgerLibrary.toUint128_uint64 _ creditHigh).symm,
    (LedgerLibrary.toUint128_uint64 _ amountHigh).symm⟩

/-- A live context, and a cluster that answers with one record. -/
def Answers (key : Tb.Uint128) (stored : Tb.Transfer) (event : Event ledgerPorts) : Prop :=
  event = ⟨.ctxErr, none⟩ ∨ event = ⟨.lookupTransfers key, .ok [stored]⟩

theorem lookupTransfer_found (positive : key ≠ 0) (observed : c.observation stored = .ok seen) :
    Meets ⟨fun _ => Answers (Tb.toUint128 key) stored, fun _ _ => True, fun _ _ => ()⟩
      (fun _ value => value = (seen, none)) () (c.lookupTransfer key) := by
  unfold lookupTransfer
  rw [if_neg positive]
  refine meets_ask_bind.mpr ⟨trivial, fun err given => ?_⟩
  obtain rfl : err = none := by simpa [Answers] using given
  refine meets_ask_bind.mpr ⟨trivial, fun records given => ?_⟩
  obtain rfl : records = .ok [stored] := by simpa [Answers] using given
  dsimp only
  rw [observed]
  rfl

theorem lookupTransfer_reports (key : UInt64) :
    Meets (onHistory anyAnswer fun _ _ => True) (fun history value => value.2 = none →
      value.1.exists = true → ∃ record, ⟨.lookupTransfers (Tb.toUint128 key), .ok [record]⟩ ∈ history ∧
        Reported record value.1) [] (c.lookupTransfer key) := by
  unfold lookupTransfer
  split_ifs
  · exact nofun
  refine meets_ask_bind.mpr ⟨trivial, fun err _ => ?_⟩
  rcases err with _ | err
  case some => exact nofun
  refine meets_ask_bind.mpr ⟨trivial, fun records _ => ?_⟩
  rcases records with err | _ | ⟨record, _ | _⟩
  · exact nofun
  · exact nofun
  · dsimp only
    split
    · exact nofun
    · exact fun _ _ => ⟨record, by simp, reported_of_observation ‹_›⟩
  · exact nofun

/-- Under a proper configuration, each transfer of an accepted batch is sent as a record that a
lookup reports as the transfer was given; and whatever a lookup reports fits into 64 bits. -/
theorem created_transfer_is_found {transfers : List Transfer} {trace : List (Event ledgerPorts)}
    (proper : c.config.Proper) (accepted : Run (c.createTransfers transfers) trace (.ret none)) :
    (∃ batch results, ⟨.createTransfers batch, .ok results⟩ ∈ trace ∧
      List.Forall₂ (fun transfer stored => stored.id = Tb.toUint128 transfer.id ∧
        ∀ trace value, Run (c.lookupTransfer transfer.id) trace (.ret value) →
          (∀ event ∈ trace, Answers stored.id stored event) → value = (asGiven transfer, none))
        transfers batch) ∧
    ∀ key trace seen, Run (c.lookupTransfer key) trace (.ret (seen, none)) → seen.exists = true →
      ∃ record, ⟨.lookupTransfers (Tb.toUint128 key), .ok [record]⟩ ∈ trace ∧
        Reported record seen := by
  refine ⟨?_, fun key trace seen looked =>
    ((lookupTransfer_reports key).run_history looked).2 _ rfl rfl⟩
  obtain ⟨batch, results, sent, mapped⟩ :=
    ((createTransfers_sends transfers).run_history accepted).2 none rfl rfl
  refine ⟨batch, results, sent, (forall₂_of_mapM mapped).imp fun transfer stored mapped => ?_⟩
  obtain ⟨same, positive, observed⟩ := observation_of_mapped proper mapped
  refine ⟨same, fun trace value looked answered => ?_⟩
  rw [same] at answered
  exact ((lookupTransfer_found positive observed).run looked (relied_of_forall answered)).2

end

def creatingCluster : (port : LedgerPort) → port.Answer
  | .now => 0
  | .selectBinding .. => .ok (1, 2)
  | .createTransfers _ => .ok [.created]
  | .lookupTransfers _ => .ok []
  | .ctxErr | .beginReadOnly | .bindTenant _ | .commitReadOnly => none
  | .projectPostedTransfer _ | .writeLedgerEvent _ => none

def kenyanTransfer : Transfer := ⟨7, 1, 2, 500, " kes ", 0, ""⟩

/-- A transfer in shillings without a mode is found as `confirmed`. -/
theorem kenyan_transfer_is_found :
    let _ := asciiLedger
    let client : TigerBeetleClient := ⟨⟨[("KES", 1)], 10⟩⟩
    asGiven kenyanTransfer = ⟨7, 0, 1, 2, 500, "KES", "confirmed", true⟩ ∧
    ∃ batch, List.Forall₂ (fun transfer stored => stored.id = Tb.toUint128 transfer.id ∧
      ∀ trace value, Run (client.lookupTransfer transfer.id) trace (.ret value) →
        (∀ event ∈ trace, Answers stored.id stored event) → value = (asGiven transfer, none))
      [kenyanTransfer] batch := by
  intro library client
  have proper : client.config.Proper := by constructor <;> decide +kernel
  have created : (client.createTransfers [kenyanTransfer]).value creatingCluster = none := by
    decide +kernel
  obtain ⟨⟨batch, results, -, found⟩, -⟩ := created_transfer_is_found proper (run_of_value created)
  exact ⟨by decide +kernel, batch, found⟩

end TigerBeetleClient

end UmojaFlowOS.Ledger
