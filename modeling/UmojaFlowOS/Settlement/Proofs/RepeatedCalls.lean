import UmojaFlowOS.Settlement.AllRails
import UmojaFlowOS.Settlement.Proofs.StoreAnswers

/-!
# Calls that repeat an idempotency key

`Reserve` compares the intent id and the payload digest of a repeated call with those of the
saga; what the saga is about, it takes from the call that reserved it.
-/

namespace UmojaFlowOS.Settlement

open Go Interaction

/-- The fields of an intent that say what is settled. -/
structure Economics where
  amountMinor : Int64
  direction : Direction
  asset : String
  fiat : String
  destination : String

def Intent.economics (intent : Intent) : Economics :=
  ⟨intent.amountMinor, intent.direction, intent.asset, intent.fiat, intent.destination⟩

def SettlementRecord.economics (record : SettlementRecord) : Economics :=
  ⟨record.amountMinor, record.direction, record.asset, record.fiat, record.destination⟩

def Coordinator.complete (c : Coordinator) : Bool :=
  c.fiat && c.custody && c.finality && c.screening && c.ledger && c.attestor && c.routing &&
    c.liquidity && c.saga

/-- A call that does not own the saga returns what the record says. -/
theorem execute_of_recorded [CaseTables] (complete : c.complete = true)
    (valid : validateIntent (answer .now) intent = none)
    (recorded : answer (.store (.reserve intent (intentPayloadDigest intent))) =
      (record, false, none)) : (execute c intent).value answer = resultFromRecord record := by
  have given : ¬ ¬ (c.fiat && c.custody && c.finality && c.screening && c.ledger && c.attestor &&
      c.routing && c.liquidity && c.saga) = true := not_not.mpr complete
  unfold execute
  simp only [call, Program.ask, bind, Program.bind, Program.value, valid, if_neg given, recorded]
  rfl

namespace PostgresSagaStore

theorem economics_of_binds
    (binds : Binds intent digest record) : record.economics = intent.economics := by
  unfold SettlementRecord.economics Intent.economics
  rw [binds.amountMinor, binds.direction, binds.asset, binds.fiat, binds.destination]

/-- A call of `Execute` that is answered from the recorded saga, in any run of the store: it
returns what the record says, and the record has the amount, direction, asset, currency and
destination of the call exactly when the intent that reserved the saga has them. -/
theorem repeated_call_agrees_iff [CaseTables] {config : StoreConfig}
    (reached : postgres.Reaches emptyStore config) {i : Nat} {past : List (Event sql)}
    {intent : Intent} {record : SettlementRecord}
    (finished : config.threads[i]? = some ⟨.reserve intent (intentPayloadDigest intent), past,
      .ret ⟨.reserve intent (intentPayloadDigest intent), (record, false, none)⟩⟩) :
    (∀ (c : Coordinator) (answer : (port : Port) → port.Answer), c.complete = true →
      validateIntent (answer .now) intent = none →
      answer (.store (.reserve intent (intentPayloadDigest intent))) = (record, false, none) →
      (execute c intent).value answer = resultFromRecord record) ∧
    ∃ first digest,
      (callsOf config.shared.accepted (intent.tenantID, intent.idempotencyKey)).head?.map Prod.snd =
        some (.reserve first digest) ∧
      first.tenantID = intent.tenantID ∧ first.idempotencyKey = intent.idempotencyKey ∧
      first.id = intent.id ∧ digest = intentPayloadDigest intent ∧
      (record.economics = intent.economics ↔ first.economics = intent.economics) := by
  refine ⟨fun c answer complete valid recorded => execute_of_recorded complete valid recorded, ?_⟩
  have present := List.mem_of_getElem? finished
  obtain ⟨-, -, found⟩ := answered_of_finished reached present
  obtain ⟨-, -, -, -, intentID, payload⟩ := found rfl rfl
  obtain ⟨snapshot, key⟩ := snapshot_of_reserve reached finished
  obtain ⟨first, digest, replays⟩ := snapshot
  have binds := replays.binds
  have named : (first.tenantID, first.idempotencyKey) = (intent.tenantID, intent.idempotencyKey) := by
    rw [← key, recordKey, binds.tenantID, binds.idempotencyKey]
  obtain ⟨tenant, idempotency⟩ := Prod.mk.inj named
  refine ⟨first, digest, ?_, tenant, idempotency, ?_, ?_, ?_⟩
  · rw [← key]
    have reserved := replays.reserved
    rw [List.head?_take] at reserved
    split at reserved
    · cases reserved
    · exact reserved
  · rw [← binds.intentID, intentID]
  · rw [← binds.payloadSHA256, payload]
  · rw [economics_of_binds binds]

def repeatedSchedule (first second : Intent) : List (Action StoreCall SqlChoice StoreEvent) :=
  [.spawn (.reserve first (intentPayloadDigest first)), .exec 0 (.reads 1),
    .exec 0 (.begins fun _ => 1), .exec 0 (.reads 1), .exec 0 .ok, .exec 0 .ok, .exec 0 .ok,
    .exec 0 .ok, .exec 0 .ok,
    .spawn (.reserve second (intentPayloadDigest second)), .exec 1 (.reads 2),
    .exec 1 (.begins fun _ => 2), .exec 1 (.reads 2), .exec 1 .ok, .exec 1 .ok, .exec 1 .ok,
    .exec 1 .ok]

/-- Thread `i` serves the call and has returned an answer that passes the test. -/
def finishedWith (i : Nat) (call : StoreCall) (test : call.Answer → Bool) (config : StoreConfig) :
    Bool :=
  config.threads[i]?.any fun thread => decide (thread.label = call) &&
    thread.rest.returned.any fun event =>
      if same : event.call = call then test (same ▸ event.answer) else false

theorem thread_of_finishedWith {i : Nat} {call : StoreCall} {test : call.Answer → Bool}
    (finished : finishedWith i call test config = true) :
    ∃ past answer, config.threads[i]? = some ⟨call, past, .ret ⟨call, answer⟩⟩ ∧
      test answer = true := by
  obtain ⟨⟨label, past, rest⟩, present, passed⟩ := (Option.any_eq_true _ _).mp finished
  rw [Bool.and_eq_true, decide_eq_true_iff] at passed
  obtain ⟨labelled, passed⟩ := passed
  obtain ⟨⟨other, answer⟩, returned, tested⟩ := (Option.any_eq_true _ _).mp passed
  dsimp only at labelled returned tested
  subst labelled
  split at tested
  · rename_i same
    subst same
    rw [Program.eq_ret_of_returned returned] at present
    exact ⟨past, answer, present, tested⟩
  · cases tested

/-- The saga that the second reservation was answered with, with this amount. -/
def recordedAmount (amount : Int64) (answer : SettlementRecord × Bool × Option GoError) : Bool :=
  answer.1.economics.amountMinor = amount && answer.2.1 = false && answer.2.2 = none

theorem repeatedSchedule_reaches (second : Intent)
    (played : (postgres.replay emptyStore (repeatedSchedule depositIntent second)).any
      (finishedWith 1 (.reserve second (intentPayloadDigest second)) (recordedAmount 2500)) = true) :
    ∃ config past record, postgres.Reaches emptyStore config ∧
      config.threads[1]? = some ⟨.reserve second (intentPayloadDigest second), past,
        .ret ⟨.reserve second (intentPayloadDigest second), (record, false, none)⟩⟩ ∧
      record.amountMinor = 2500 := by
  obtain ⟨config, replayed, finished⟩ := (Option.any_eq_true _ _).mp played
  obtain ⟨past, ⟨record, owned, err⟩, present, tested⟩ := thread_of_finishedWith finished
  simp only [recordedAmount, Bool.and_eq_true, decide_eq_true_eq] at tested
  obtain ⟨⟨amount, rfl⟩, rfl⟩ := tested
  exact ⟨config, past, record, Machine.reaches_of_replay replayed, present, amount⟩

/-- The deposit sent twice: both calls mean the same. -/
theorem repeated_deposit_agrees :
    ∃ config past record, postgres.Reaches emptyStore config ∧
      config.threads[1]? = some ⟨.reserve depositIntent (intentPayloadDigest depositIntent), past,
        .ret ⟨.reserve depositIntent (intentPayloadDigest depositIntent), (record, false, none)⟩⟩ ∧
      ∃ first digest, (callsOf config.shared.accepted
          (depositIntent.tenantID, depositIntent.idempotencyKey)).head?.map Prod.snd =
            some (.reserve first digest) ∧
        (record.economics = depositIntent.economics ↔ first.economics = depositIntent.economics) := by
  let := asciiTables
  obtain ⟨config, past, record, reached, finished, amount⟩ :=
    repeatedSchedule_reaches depositIntent (by decide +kernel)
  obtain ⟨-, first, digest, head, -, -, -, -, agree⟩ := repeated_call_agrees_iff reached finished
  exact ⟨config, past, record, reached, finished, first, digest, head, agree⟩

/-- The deposit with another amount and another wallet, under the same payload. -/
def divertedIntent : Intent := { depositIntent with amountMinor := 990000, destination := "wallet-2" }

/-- A call for 9900 KES to another wallet is answered with the saga of 25 KES. -/
theorem diverted_call_is_answered :
    validateIntent 2 divertedIntent = none ∧ divertedIntent.amountMinor = 990000 ∧
      ∃ config past record, postgres.Reaches emptyStore config ∧
        config.threads[1]? = some ⟨.reserve divertedIntent (intentPayloadDigest divertedIntent),
          past, .ret ⟨.reserve divertedIntent (intentPayloadDigest divertedIntent),
            (record, false, none)⟩⟩ ∧
        record.amountMinor = 2500 :=
  ⟨by decide, rfl, repeatedSchedule_reaches divertedIntent (by decide +kernel)⟩

end PostgresSagaStore

end UmojaFlowOS.Settlement
