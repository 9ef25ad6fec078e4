import UmojaFlowOS.Reconciliation.TransferColumns

/-!
# The Kafka reconciliation consumer

`services/payment-engine/internal/reconciliation/idem_kafka_consumer.go`: settlement
events are checked, kept in an inbox, compared with the durable stablecoin intent, and
posted to the ledger under an identifier that depends on tenant and idempotency key
only. `json.Unmarshal` is left open: a consumer is given any two decoders.
-/

namespace UmojaFlowOS.Reconciliation

open Crypto Go Interaction Ledger

/-! ## Events and intents -/

/-- `SettlementReconciledPayload` (lines 23-38). -/
structure SettlementReconciledPayload where
  tenantID : String
  intentID : String
  idempotencyKey : String
  releaseSHA : String
  reconciliationRunID : String
  status : String := ""
  providerRef : String := ""
  asset : String := ""
  amountMinor : UInt64 := 0
  debitAccountID : UInt64 := 0
  creditAccountID : UInt64 := 0
  providerFinal : Bool := false
  businessEffect : Bool := false
  evidenceSHA256 : String := ""

/-- The `CHECK` on `stablecoin_intent.status`
(0058_native_stablecoin_intents_idempotency.sql:18-19). -/
inductive IntentStatus where
  | pending
  | submitted
  | settled
  | held
  | failed
  | unknown
  deriving DecidableEq

/-- `status IN ('SETTLED','FAILED','HELD')`. -/
def IntentStatus.terminal : IntentStatus → Bool
  | settled | failed | held => true
  | _ => false

/-- `IntentRecord` (lines 40-52), without the digest, which is not read. -/
structure IntentRecord where
  tenantID : String
  intentID : String
  idempotencyKey : String
  releaseSHA : String
  reconciliationRunID : String
  status : IntentStatus
  asset : String
  amountMinor : UInt64
  debitAccountID : UInt64
  creditAccountID : UInt64

/-- `eventing.Envelope` (eventing/event.go:16-23), without the time, which is not read. -/
structure Envelope where
  eventID : String
  eventType : String
  schemaVersion : String
  correlationID : String
  payload : List UInt8

/-- `kgo.Record`, as far as it is read. -/
structure KafkaRecord where
  topic : String
  value : List UInt8

/-- What `json.Unmarshal` makes of a record and of the payload in it. -/
structure Decoders where
  envelope : List UInt8 → Except GoError Envelope
  payload : List UInt8 → Except GoError SettlementReconciledPayload

/-- `IntentPolicyInput` (lines 71-82); `direction` is never set. -/
structure IntentPolicyInput where
  tenantID : String
  intentID : String
  idempotencyKey : String
  releaseSHA : String
  reconciliationRunID : String
  asset : String
  amountMinor : UInt64
  direction : String := ""
  providerFinal : Bool
  businessEffect : Bool

/-- `IntentPolicyDecision` (lines 84-87). -/
structure IntentPolicyDecision where
  allow : Bool := false
  reason : String := ""

/-- What an evaluation ends with; `canceled` is whether the error or the parent context's
is `context.Canceled`. -/
structure PolicyAnswer where
  decision : IntentPolicyDecision := {}
  err : Option GoError := none
  canceled : Bool := false

/-! ## The calls -/

/-- A call of the consumer. `beginTx` also binds the tenant (lines 271-284). -/
inductive ConsumerCall where
  | pollFetches
  | commitRecord (record : KafkaRecord)
  | now
  | ctxErr
  | wait (delay : Int)
  | beginTx (tenantID : String)
  | insertInbox (payload : SettlementReconciledPayload) (eventID : String) (now : Int)
  | selectReserved (tenantID eventID : String)
  | selectIntent (tenantID idempotencyKey : String)
  | updateIntent (payload : SettlementReconciledPayload) (status : IntentStatus)
      (transferID : UInt64) (providerRef : String) (now : Int)
  | insertDecision (payload : SettlementReconciledPayload) (status : IntentStatus)
      (transferID : UInt64) (providerRef : String) (now : Int)
  | updateInbox (now : Int) (tenantID eventID : String)
  | commit
  | rollback
  | evaluate (input : IntentPolicyInput)
  | post (request : PostingRequest)

abbrev ConsumerCall.Answer : ConsumerCall → Type
  | pollFetches => Except String (List KafkaRecord)
  | commitRecord _ => Option GoError
  | now => Int
  | ctxErr => Option GoError
  | wait _ => Option GoError
  | beginTx _ => Option GoError
  | insertInbox _ _ _ => Option GoError
  | selectReserved _ _ => Except GoError Bool
  | selectIntent _ _ => Except GoError IntentRecord
  | updateIntent _ _ _ _ _ => Option GoError
  | insertDecision _ _ _ _ _ => Option GoError
  | updateInbox _ _ _ => Except GoError Nat
  | commit => Option GoError
  | rollback => Unit
  | evaluate _ => PolicyAnswer
  | post _ => Posting

abbrev consumerCalls : Interface := ⟨ConsumerCall, ConsumerCall.Answer⟩

abbrev ConsumerWork (α : Type) := Program consumerCalls α

def ConsumerCall.ask (call : ConsumerCall) : ConsumerWork call.Answer :=
  Program.ask (P := consumerCalls) call

/-! ## The store -/

/-- `tx` with the deferred rollback (lines 271-284). -/
def storeTx {α : Type} (tenantID : String) (failed : GoError → α) (body : ConsumerWork α) :
    ConsumerWork α := do
  if trimSpace tenantID = "" then
    return failed (.new "PostgreSQL store and tenant are required")
  else
    match ← (ConsumerCall.beginTx tenantID).ask with
    | some err => return failed err
    | none =>
      let result ← body
      ConsumerCall.rollback.ask
      return result

section
variable (p : SettlementReconciledPayload)

/-- `ReserveEvent` (lines 286-304). -/
def reserveEvent (eventID : String) (now : Int) :
    ConsumerWork (Except GoError Bool) :=
  storeTx p.tenantID .error do
    match ← (ConsumerCall.insertInbox p eventID now).ask with
    | some err => return .error err
    | none =>
      match ← (ConsumerCall.selectReserved p.tenantID eventID).ask with
      | .error err => return .error err
      | .ok inserted =>
        match ← ConsumerCall.commit.ask with
        | some err => return .error err
        | none => return .ok inserted

/-- `LoadIntent` (lines 306-321). -/
def loadIntent (tenantID key : String) : ConsumerWork (Except GoError IntentRecord) :=
  storeTx tenantID .error do
    match ← (ConsumerCall.selectIntent tenantID key).ask with
    | .error err => return .error err
    | .ok intent =>
      match ← ConsumerCall.commit.ask with
      | some err => return .error err
      | none => return .ok intent

/-- `updateIntent` (lines 329-345). -/
def updateIntent (status : IntentStatus) (transferID : UInt64)
    (providerRef : String) (now : Int) : ConsumerWork (Option GoError) :=
  storeTx p.tenantID some do
    match ← (ConsumerCall.updateIntent p status transferID providerRef now).ask with
    | some err => return some err
    | none =>
      match ← (ConsumerCall.insertDecision p status transferID providerRef now).ask with
      | some err => return some err
      | none => ConsumerCall.commit.ask

/-- `MarkUnknown` (lines 323-325). The reason is dropped. -/
def markUnknown (_reason : String) (now : Int) :
    ConsumerWork (Option GoError) :=
  updateIntent p .unknown 0 p.providerRef now

/-- `MarkSettled` (lines 326-328). -/
def markSettled (transferID : UInt64) (providerRef : String)
    (now : Int) : ConsumerWork (Option GoError) :=
  updateIntent p .settled transferID providerRef now

end

/-- `MarkEventProcessed` (lines 346-360). -/
def markEventProcessed (eventID tenantID : String) (now : Int) : ConsumerWork (Option GoError) :=
  storeTx tenantID some do
    match ← (ConsumerCall.updateInbox now tenantID eventID).ask with
    | .error err => return some err
    | .ok affected =>
      if affected ≠ 1 then
        return some (.new "event was not reserved or was already processed")
      else
        ConsumerCall.commit.ask

/-! ## The policy -/

/-- `Consumer` (lines 99-107): which dependencies are set, and its topic. -/
structure Consumer where
  client : Bool := true
  store : Bool := true
  ledger : Bool := true
  policy : Bool := true
  topic : String

/-- The loop of `evaluateOPAWithRetry` (opa_retry.go:30-69) at an attempt after which
`retries` more are left. Metrics are left out. -/
def evaluateFrom (input : IntentPolicyInput) (attempt retries : Nat) :
    ConsumerWork (IntentPolicyDecision × Option GoError) := do
  match ← ConsumerCall.ctxErr.ask with
  | some err => return ({}, some err)
  | none =>
    let answer ← (ConsumerCall.evaluate input).ask
    match answer.err with
    | none => return (answer.decision, none)
    | some err =>
      if answer.canceled then
        return ({}, some err)
      else
        match retries with
        | 0 => return ({}, some (.inContext "OPA evaluation exhausted after 3 attempts" err))
        | retries + 1 =>
          match ← (ConsumerCall.wait (50000000 * 2 ^ (attempt - 1))).ask with
          | some err => return ({}, some err)
          | none => evaluateFrom input (attempt + 1) retries

/-- `evaluateOPAWithRetry` (opa_retry.go:25-70), with its three attempts. -/
def evaluateOPAWithRetry (c : Consumer) (input : IntentPolicyInput) :
    ConsumerWork (IntentPolicyDecision × Option GoError) :=
  if ¬ c.policy then return ({}, some (.new "OPA policy is required"))
  else evaluateFrom input 1 2

/-! ## One record -/

section
variable [LedgerLibrary]

/-- `validatePayload` (lines 238-249). -/
def validatePayload (p : SettlementReconciledPayload) : Option GoError :=
  if p.tenantID = "" ∨ p.intentID = "" ∨ p.idempotencyKey = "" ∨ p.releaseSHA = "" ∨
      p.reconciliationRunID = "" then
    some (.new "tenant, intent, idempotency, release SHA, and reconciliation run ID are required")
  else if p.amountMinor = 0 ∨ p.debitAccountID = 0 ∨ p.creditAccountID = 0 ∨
      p.debitAccountID = p.creditAccountID then
    some (.new "positive amount and distinct ledger accounts are required")
  else none

/-- `isConclusive` (lines 251-253). -/
def isConclusive (p : SettlementReconciledPayload) : Bool :=
  p.providerFinal && p.businessEffect &&
    (equalFold p.status "SETTLED" || equalFold p.status "CONFIRMED")

def settlementReconciledV1 : String := "umojaflowos.stablecoin.settlement-reconciled.v1"

/-- `HandleRecord` before it reads the clock: the event of a record that passes every
check of its own (lines 142-165). -/
def acceptRecord (d : Decoders) (record : Option KafkaRecord) :
    Except GoError (Envelope × SettlementReconciledPayload) :=
  match record with
  | none => .error (.new "empty Kafka reconciliation record")
  | some record =>
    if record.value = [] then .error (.new "empty Kafka reconciliation record")
    else
      match d.envelope record.value with
      | .error err => .error (.inContext "decode event envelope" err)
      | .ok envelope =>
        if envelope.eventType ≠ settlementReconciledV1 ∨ envelope.schemaVersion ≠ "v1" then
          .error (.new ("unsupported settlement event type/version: " ++ envelope.eventType ++ "/" ++
            envelope.schemaVersion))
        else if envelope.eventID = "" ∨ envelope.correlationID = "" ∨ envelope.payload = [] then
          .error (.new "settlement event envelope is incomplete")
        else
          match d.payload envelope.payload with
          | .error err => .error (.inContext "decode settlement reconciliation payload" err)
          | .ok p =>
            match validatePayload p with
            | some err => .error err
            | none =>
              if p.evidenceSHA256 ≠ "" ∧ p.evidenceSHA256 ≠ hexEncode (sha256 envelope.payload) then
                .error (.new "settlement event evidence SHA-256 mismatch")
              else .ok (envelope, p)

/-- What the policy is asked (lines 198-203). -/
def policyInput (p : SettlementReconciledPayload) : IntentPolicyInput where
  tenantID := p.tenantID
  intentID := p.intentID
  idempotencyKey := p.idempotencyKey
  releaseSHA := p.releaseSHA
  reconciliationRunID := p.reconciliationRunID
  asset := p.asset
  amountMinor := p.amountMinor
  providerFinal := p.providerFinal
  businessEffect := p.businessEffect

/-- What is posted (lines 217-222): everything is taken from the event. -/
def postingOf (p : SettlementReconciledPayload) : PostingRequest where
  transferID := deterministicTransferID p.tenantID p.idempotencyKey
  correlationID := p.intentID
  currency := p.asset
  amount := p.amountMinor
  debitAccountID := p.debitAccountID
  creditAccountID := p.creditAccountID

/-- The event and the intent name the same binding (line 183). -/
def IntentRecord.boundTo (intent : IntentRecord) (p : SettlementReconciledPayload) : Bool :=
  intent.intentID = p.intentID && intent.releaseSHA = p.releaseSHA &&
    intent.reconciliationRunID = p.reconciliationRunID

/-- `HandleRecord` once the policy allows the event (lines 217-235). -/
def settleIntent (p : SettlementReconciledPayload) (eventID : String) (now : Int) :
    ConsumerWork (Option GoError) := do
  let (_, err) ← (ConsumerCall.post (postingOf p)).ask
  match err with
  | some err =>
    match ← markUnknown p "TigerBeetle posting was not conclusively acknowledged" now with
    | some markErr => return some markErr
    | none => return some (.inContext "TigerBeetle authoritative posting" err)
  | none =>
    match ← markSettled p (postingOf p).transferID p.providerRef now with
    | some err => return some (.inContext
        "TigerBeetle confirmed but PostgreSQL settlement decision is pending" err)
    | none => markEventProcessed eventID p.tenantID now

/-- `HandleRecord` once the intent is loaded (lines 183-235). -/
def reconcileIntent (c : Consumer) (p : SettlementReconciledPayload) (eventID : String) (now : Int)
    (intent : IntentRecord) : ConsumerWork (Option GoError) := do
  if ¬ intent.boundTo p then
    match ← markUnknown p "intent binding mismatch" now with
    | some markErr => return some markErr
    | none => return some (.new "settlement event does not match durable intent binding")
  else if intent.status.terminal then
    markEventProcessed eventID p.tenantID now
  else if ¬ isConclusive p then
    match ← markUnknown p "reconciliation result is non-conclusive" now with
    | some err => return some err
    | none => markEventProcessed eventID p.tenantID now
  else
    let (decision, err) ← evaluateOPAWithRetry c (policyInput p)
    match err with
    | some err =>
      match ← markUnknown p "OPA policy evaluation unavailable" now with
      | some markErr => return some markErr
      | none => return some (.inContext "OPA policy evaluation" err)
    | none =>
      if ¬ decision.allow then
        match ← markUnknown p ("OPA denied intent: " ++ decision.reason) now with
        | some err => return some err
        | none => markEventProcessed eventID p.tenantID now
      else settleIntent p eventID now

/-- `HandleRecord` from the clock on (lines 166-235). -/
def handleEvent (c : Consumer) (eventID : String) (p : SettlementReconciledPayload) :
    ConsumerWork (Option GoError) := do
  let now ← ConsumerCall.now.ask
  match ← reserveEvent p eventID now with
  | .error err => return some (.inContext "reserve reconciliation event" err)
  | .ok false => return none
  | .ok true =>
    match ← loadIntent p.tenantID p.idempotencyKey with
    | .error err => return some (.inContext "load stablecoin intent" err)
    | .ok intent => reconcileIntent c p eventID now intent

/-- `HandleRecord` (lines 141-236). -/
def handleRecord (d : Decoders) (c : Consumer) (record : Option KafkaRecord) :
    ConsumerWork (Option GoError) :=
  match acceptRecord d record with
  | .error err => return some err
  | .ok (envelope, p) => handleEvent c envelope.eventID p

/-! ## The loop -/

/-- The records of one poll, each committed once it is handled
(lines 127-137). -/
def handleEach (d : Decoders) (c : Consumer) : List KafkaRecord → ConsumerWork (Option GoError)
  | [] => return none
  | record :: records => do
    match ← handleRecord d c (some record) with
    | some err => return some err
    | none =>
      match ← (ConsumerCall.commitRecord record).ask with
      | some err => return some (.inContext "commit Kafka reconciliation record" err)
      | none => handleEach d c records

/-- The loop of `Consume` (lines 113-138) for a number of polls. The loop
itself ends only with an error; `none` is a loop that is still going. -/
def consumeRounds (d : Decoders) (c : Consumer) : Nat → ConsumerWork (Option GoError)
  | 0 => return none
  | rounds + 1 => do
    match ← ConsumerCall.pollFetches.ask with
    | .error errs => return some (.new ("Kafka fetch failed: " ++ errs))
    | .ok records =>
      match ← ConsumerCall.ctxErr.ask with
      | some err => return some err
      | none =>
        match ← handleEach d c (records.filter (·.topic = c.topic)) with
        | some err => return some err
        | none => consumeRounds d c rounds

/-- `Consume` (lines 109-139). -/
def consume (d : Decoders) (c : Consumer) (rounds : Nat) : ConsumerWork (Option GoError) :=
  if ¬ c.client ∨ ¬ c.store ∨ ¬ c.ledger ∨ ¬ c.policy ∨ trimSpace c.topic = "" then
    return some (.new "Kafka consumer, topic, store, policy, and TigerBeetle ledger are required")
  else consumeRounds d c rounds

end

end UmojaFlowOS.Reconciliation
