import UmojaFlowOS.Interaction.Guarded
import UmojaFlowOS.Ledger.Proofs.Cluster
import UmojaFlowOS.Reconciliation.Proofs.ConsumerLedger
import UmojaFlowOS.Reconciliation.Proofs.ConsumerPostings

/-!
# At most one transfer for a key

Over all runs of any number of consumers: the events of one key create at most one
transfer, and an intent is written as settled only after the ledger accepted the transfer
of its key.
-/

namespace UmojaFlowOS.Reconciliation

open Go Interaction Ledger Relational Settlement TigerBeetleClient

/-! ## What a request does to the cluster -/

section
variable {inferred : IntType} {s after : SystemState} {call : SystemCall} {answer : call.Answer}

def SystemState.transfers (s : SystemState) : List Tb.Transfer := s.ledger.cluster.transfers

def SystemCall.batch : SystemCall → List Tb.Transfer
  | .ledger (.createTransfers batch) => batch
  | _ => []

theorem ledger_exec_transfers {s after : LedgerState} {port : LedgerPort} {choice : LedgerChoice}
    {answer : port.Answer} (done : s.exec port choice = some (answer, after)) :
    after.cluster = s.cluster ∨
      ∃ name batch, port = .createTransfers batch ∧ after.cluster = (s.cluster.createAll name batch).2 := by
  cases port with
  | createTransfers batch =>
    cases choice with
    | replies name =>
      cases done
      exact .inr ⟨name, batch, rfl, rfl⟩
    | loses err =>
      cases done
      exact .inr ⟨"", batch, rfl, rfl⟩
    | refuses | fails =>
      cases done
      exact .inl rfl
    | reads time => cases done
  | _ =>
    left
    cases choice <;> cases done <;> rfl

/-- A call adds at most the transfers of its own batch. -/
theorem transfers_of_exec (done : s.exec inferred i call choice = some (answer, after)) :
    s.transfers ⊆ after.transfers ∧
      ∀ transfer ∈ after.transfers, transfer ∈ s.transfers ∨ transfer ∈ call.batch := by
  cases call with
  | plain call =>
    obtain ⟨⟨given, database⟩, -, same⟩ := Option.map_eq_some_iff.mp done
    cases same
    exact ⟨List.Subset.refl _, fun _ => .inl⟩
  | ledger port =>
    cases choice with
    | ledger choice =>
      obtain ⟨⟨given, ledger⟩, served, same⟩ := Option.map_eq_some_iff.mp done
      cases same
      dsimp only [SystemState.transfers]
      rcases ledger_exec_transfers served with same | ⟨name, batch, rfl, same⟩
      · rw [same]
        exact ⟨List.Subset.refl _, fun _ => .inl⟩
      · rw [same]
        exact ⟨s.ledger.cluster.subset_createAll name batch, fun _ => Tb.Cluster.mem_createAll⟩
    | _ => cases done

/-- A request for one transfer adds it or nothing. -/
theorem transfers_of_exec_singleton
    (done : s.exec inferred i (.ledger (.createTransfers [transfer])) choice = some (given, after)) :
    after.transfers = s.transfers ∨ after.transfers = s.transfers ++ [transfer] := by
  cases choice with
  | ledger choice =>
    obtain ⟨⟨answer, ledger⟩, served, same⟩ := Option.map_eq_some_iff.mp done
    cases same
    dsimp only [SystemState.transfers]
    rcases ledger_exec_transfers served with same | ⟨name, batch, only, same⟩
    · exact .inl (by rw [same])
    cases only
    rw [same]
    change (s.ledger.cluster.create transfer name).2.transfers = _ ∨
      (s.ledger.cluster.create transfer name).2.transfers = _
    rcases s.ledger.cluster.create_cases transfer name with refused | ⟨-, present⟩ | ⟨-, added⟩
    · exact .inl (by rw [refused])
    · exact .inl (by rw [present])
    · exact .inr added
  | _ => cases done

theorem mem_transfers_of_accepted
    (done : s.exec inferred i (.ledger (.createTransfers [transfer])) choice =
      some (.ok results, after))
    (accepted : rejection 0 results = none) : transfer ∈ after.transfers := by
  cases choice with
  | ledger choice =>
    obtain ⟨⟨given, ledger⟩, served, same⟩ := Option.map_eq_some_iff.mp done
    cases same
    cases choice with
    | replies name =>
      cases served
      change rejection 0 [(s.ledger.cluster.create transfer name).1] = none
        at accepted
      have held : (s.ledger.cluster.create transfer name).1.accepted = true := by
        cases status : (s.ledger.cluster.create transfer name).1 with
        | created | «exists» => rfl
        | refused reason =>
          rw [status] at accepted
          cases accepted
      exact Tb.Cluster.mem_of_accepted held
    | refuses name =>
      cases served
      cases accepted
    | _ => cases served
  | _ => cases done

end

/-! ## Over a run -/

def AcceptedHeld (config : SystemConfig) : Prop :=
  ∀ thread ∈ config.threads, ∀ transfer results,
    ⟨.ledger (.createTransfers [transfer]), .ok results⟩ ∈ thread.past →
    rejection 0 results = none → transfer ∈ config.shared.transfers

section
variable [LedgerLibrary] {d : Decoders} {service : PostingService} {inferred : IntType}
  {config later : SystemConfig}

theorem transfers_of_next (taken : (consumers d service inferred).next config action = some later) :
    config.shared.transfers ⊆ later.shared.transfers := by
  rcases Machine.next_cases taken with ⟨label, program, -, rfl⟩ |
    ⟨i, label, past, request, next, choice, answer, shared, -, done, rfl⟩ | ⟨event, shared, changed, rfl⟩
  · exact List.Subset.refl _
  · exact (transfers_of_exec done).1
  cases event with
  | disconnects thread =>
    cases changed
    exact List.Subset.refl _
  | registers intent =>
    obtain ⟨database, -, rfl⟩ := Option.map_eq_some_iff.mp changed
    exact List.Subset.refl _
  | creates batch =>
    cases changed
    exact config.shared.ledger.cluster.subset_createAll "" batch

theorem transfers_of_reaches (reached : (consumers d service inferred).Reaches config later) :
    config.shared.transfers ⊆ later.shared.transfers := by
  induction reached with
  | refl => exact List.Subset.refl _
  | tail action _ taken ih => exact List.Subset.trans ih (transfers_of_next taken)

theorem AcceptedHeld.step (held : AcceptedHeld config)
    (taken : (consumers d service inferred).next config action = some later) :
    AcceptedHeld later := by
  have grows := transfers_of_next taken
  rcases Machine.next_cases taken with ⟨label, program, -, rfl⟩ |
    ⟨i, label, past, request, next, choice, answer, shared, active, done, rfl⟩ | ⟨event, shared, -, rfl⟩
  · intro thread present transfer results asked accepted
    rcases mem_concat.mp present with old | rfl
    · exact grows (held thread old transfer results asked accepted)
    · cases asked
  · intro thread present transfer results asked accepted
    rcases List.mem_or_eq_of_mem_set present with old | rfl
    · exact grows (held thread old transfer results asked accepted)
    rcases List.mem_append.mp asked with earlier | now
    · exact grows (held _ (List.mem_of_getElem? active) transfer results earlier accepted)
    · cases List.mem_singleton.mp now
      exact mem_transfers_of_accepted done accepted
  · intro thread present transfer results asked accepted
    exact grows (held thread present transfer results asked accepted)

theorem acceptedHeld_of_reaches
    (reached : (consumers d service inferred).Reaches ⟨start, []⟩ config) :
    AcceptedHeld config := by
  induction reached with
  | refl => exact fun _ none_ => absurd none_ List.not_mem_nil
  | tail action _ taken ih => exact ih.step taken

end

theorem acceptedAfter_cases (accepted : Option Tb.Transfer) (event : Event ledgerPorts) :
    acceptedAfter accepted event = accepted ∨
      ∃ transfer results, event = ⟨.createTransfers [transfer], .ok results⟩ ∧
        rejection 0 results = none ∧
        acceptedAfter accepted event = some transfer := by
  unfold acceptedAfter
  split
  · rename_i transfer results
    by_cases fine : rejection 0 results = none
    · exact .inr ⟨transfer, results, rfl, fine, if_pos fine⟩
    · exact .inl (if_neg fine)
  · exact .inl rfl

theorem exists_of_accepted (accepted : (systemSeenIn past).accepted = some transfer) :
    ∃ results, ⟨.ledger (.createTransfers [transfer]), .ok results⟩ ∈ past ∧
      rejection 0 results = none := by
  induction past using List.reverseRecOn with
  | nil => cases accepted
  | append_singleton past event ih =>
    have earlier : (systemSeenIn past).accepted = some transfer →
        ∃ results, ⟨.ledger (.createTransfers [transfer]), .ok results⟩ ∈ past ++ [event] ∧
          rejection 0 results = none := fun told => by
      obtain ⟨results, asked, fine⟩ := ih told
      exact ⟨results, by simp [asked], fine⟩
    rw [systemSeenIn, List.foldl_append] at accepted
    obtain ⟨call, answer⟩ := event
    cases call with
    | plain call =>
      cases call with
      | insertInbox p eventID now => cases accepted
      | _ => exact earlier accepted
    | ledger port =>
      rcases acceptedAfter_cases (systemSeenIn past).accepted ⟨port, answer⟩ with
        same | ⟨created, results, event, fine, told⟩
      · exact earlier (same ▸ accepted)
      cases event
      cases told.symm.trans accepted
      exact ⟨results, by simp, fine⟩

/-! ## The theorem -/

/-- A step in which a consumer that handles an event of the key creates a transfer. -/
def Creates [LedgerLibrary] (d : Decoders) (service : PostingService) (inferred : IntType)
    (tenantID idempotencyKey : String) (config later : SystemConfig) : Prop :=
  ∃ i choice thread p transfer, config.threads[i]? = some thread ∧
    (consumers d service inferred).next config (.exec i choice) = some later ∧
    (systemSeenIn thread.past).event = some p ∧ p.tenantID = tenantID ∧
    p.idempotencyKey = idempotencyKey ∧
    transfer ∈ later.shared.transfers ∧ transfer ∉ config.shared.transfers

section
variable [LedgerLibrary] {d : Decoders} {service : PostingService} {inferred : IntType}
  {start : SystemState} {config middle later : SystemConfig} {tenantID key : String}

/-- A creating step adds one transfer, the one of the key. -/
theorem one_of_creates (reached : (consumers d service inferred).Reaches ⟨start, []⟩ config)
    (creates : Creates d service inferred tenantID key config later) :
    ∃ transfer ∉ config.shared.transfers,
      transfer.id = Tb.toUint128 (deterministicTransferID tenantID key) ∧
      later.shared.transfers = config.shared.transfers ++ [transfer] := by
  obtain ⟨i, choice, thread, p, transfer, active, taken, handled, rfl, rfl, there, new⟩ := creates
  obtain ⟨label, past, request, next, answer, shared, found, done, rfl⟩ := Machine.next_exec taken
  cases found.symm.trans active
  have meets := (consumer_of_reaches reached (List.mem_of_getElem? active)).2
  refine ⟨transfer, new, ?_⟩
  rcases (transfers_of_exec done).2 transfer there with old | created
  · exact absurd old new
  have permitted : systemGuar (systemSeenIn past) request := meets.1
  cases request with
  | plain call => cases created
  | ledger port =>
    cases port with
    | createTransfers batch =>
      obtain ⟨event, told, only, rfl, same⟩ := permitted
      cases told.symm.trans handled
      cases List.mem_singleton.mp created
      refine ⟨same, (transfers_of_exec_singleton done).resolve_left fun unchanged => new ?_⟩
      rwa [← unchanged]
    | _ => cases created

/-- Any order, redelivery and interleaving of events, with consumers that stop anywhere:
a step that handles an event of a key and creates a transfer creates exactly the one of the
key, once the events of a key have created a transfer they never create another, and `SETTLED`
is written for an intent only with the identifier of its key and after TigerBeetle accepted
a transfer with it, which stays. -/
theorem key_is_posted_once (reached : (consumers d service inferred).Reaches ⟨start, []⟩ config) :
    (∀ tenantID key later, Creates d service inferred tenantID key config later →
      ∃ transfer, transfer.id = Tb.toUint128 (deterministicTransferID tenantID key) ∧
        later.shared.transfers = config.shared.transfers ++ [transfer]) ∧
    (∀ tenantID key middle later final, Creates d service inferred tenantID key config middle →
      (consumers d service inferred).Reaches middle later →
      ¬ Creates d service inferred tenantID key later final) ∧
    ∀ thread ∈ config.threads, ∀ before after p transferID providerRef now answer,
      thread.past =
        before ++ ⟨.plain (.updateIntent p .settled transferID providerRef now), answer⟩ :: after →
      transferID = deterministicTransferID p.tenantID p.idempotencyKey ∧
      ∃ transfer results, ⟨.ledger (.createTransfers [transfer]), .ok results⟩ ∈ before ∧
        rejection 0 results = none ∧
        transfer.id = Tb.toUint128 transferID ∧ transfer ∈ config.shared.transfers := by
  refine ⟨?_, ?_, ?_⟩
  · intro tenantID key later creates
    obtain ⟨transfer, -, own⟩ := one_of_creates reached creates
    exact ⟨transfer, own⟩
  · intro tenantID key middle later final first between second
    have reachedMiddle : (consumers d service inferred).Reaches ⟨start, []⟩ middle := by
      obtain ⟨i, choice, -, -, -, -, taken, -⟩ := first
      exact .tail _ reached taken
    obtain ⟨transfer, -, firstID, created⟩ := one_of_creates reached first
    obtain ⟨again, new, secondID, added⟩ := one_of_creates (reachedMiddle.trans between) second
    have kept : transfer ∈ later.shared.transfers :=
      transfers_of_reaches between (by simp [created])
    have held : ∀ stored ∈ later.shared.transfers ++ [again],
        stored ∈ final.shared.ledger.cluster.transfers := by
      rw [← added]
      exact fun _ => id
    have same := Tb.Cluster.eq_of_id_eq (held transfer (by simp [kept])) (held again (by simp))
      (firstID.trans secondID.symm)
    exact new (same ▸ kept)
  intro thread present before after p transferID providerRef now answer split
  have allowed := (consumer_of_reaches reached present).1
  rw [split] at allowed
  obtain ⟨-, ⟨handled, written⟩, accepts⟩ := allowed.split
  obtain ⟨event, told, transfer, accepted, same⟩ := accepts rfl
  cases told.symm.trans handled
  have own : transferID = deterministicTransferID p.tenantID p.idempotencyKey := by
    rcases written with unknown | ⟨-, own, -⟩
    · cases unknown
    · exact own
  obtain ⟨results, asked, fine⟩ := exists_of_accepted accepted
  have inPast : ⟨.ledger (.createTransfers [transfer]), .ok results⟩ ∈ thread.past := by
    rw [split]
    simp [asked]
  refine ⟨own, transfer, results, asked, fine, ?_,
    acceptedHeld_of_reaches reached thread present transfer results inPast fine⟩
  rw [own]
  exact same

end

/-! ## One event -/

def usdcService : PostingService where
  client := some { config := { currencyLedgers := [("USDC", 1)], transferCode := 1 } }

def oneIntent : SystemState where
  database := { tables := { intents := [{ intent := openIntent }] } }
  ledger := emptyLedger

def statements (count : Nat) : List (Action ConsumerJob ConsumerChoice SystemEvent) :=
  List.replicate count (.exec 0 .proceeds)

/-- Decoders that find in a payload the digest of its text, which the tables ask for. No JSON
text is known that contains its own digest. -/
def selfDigesting (events : List (String × SettlementReconciledPayload)) : Decoders :=
  decodersOf (fun raw _ => some (hexEncode (Crypto.sha256 raw))) events

def settlingSchedule : List (Action ConsumerJob ConsumerChoice SystemEvent) :=
  [.spawn ⟨settlements, 1⟩, .exec 0 (.polls (.ok [recordOf "event-1" (settledEvent 100)])), .exec 0 (.ends none),
    .exec 0 (.reads 0)] ++ statements 5 ++ statements 4 ++
  [.exec 0 (.ends none), .exec 0 (.policy { decision := { allow := true } }),
    .exec 0 (.ledger (.replies "")), .exec 0 (.ledger (.replies "")),
    .exec 0 (.ledger (.replies "")), .exec 0 (.ledger (.reads 1)),
    .exec 0 (.ledger (.replies ""))] ++ statements 5 ++ statements 4 ++ [.exec 0 (.ends none)]

def settlesIntent : Event systemCalls → Bool
  | ⟨.plain call, _⟩ => call.settles
  | _ => false

/-- The consumer settles the intent, after the one transfer of its key was accepted. -/
theorem delivered_event_is_posted_once :
    ∃ config, (@consumers asciiLedger (selfDigesting [("event-1", settledEvent 100)]) usdcService .bigint).Reaches
        ⟨oneIntent, []⟩ config ∧
      (∃ thread ∈ config.threads, thread.past.any settlesIntent = true) ∧
      ∀ thread ∈ config.threads, ∀ before after p transferID providerRef now answer,
        thread.past = before ++
          ⟨.plain (.updateIntent p .settled transferID providerRef now), answer⟩ :: after →
        transferID = deterministicTransferID p.tenantID p.idempotencyKey ∧
        ∃ transfer results, ⟨.ledger (.createTransfers [transfer]), .ok results⟩ ∈ before ∧
          rejection 0 results = none ∧
          transfer.id = asciiLedger.toUint128 transferID ∧ transfer ∈ config.shared.transfers := by
  let := asciiLedger
  have found : ∃ config,
      (consumers (selfDigesting [("event-1", settledEvent 100)]) usdcService .bigint).Reaches ⟨oneIntent, []⟩ config ∧
      ∃ thread ∈ config.threads, thread.past.any settlesIntent = true :=
    Machine.exists_of_replay settlingSchedule (by decide +kernel)
  obtain ⟨config, reached, settled⟩ := found
  exact ⟨config, reached, settled, (key_is_posted_once reached).2.2⟩

end UmojaFlowOS.Reconciliation
