import UmojaFlowOS.Reconciliation.Proofs.ConsumerContract

/-!
# What a reconciliation consumer posts

The posting of an event is built from the event alone; nothing on the way compares it with
the durable intent.
-/

namespace UmojaFlowOS.Reconciliation

open Crypto Go Interaction Ledger

def Matches (request : PostingRequest) (intent : IntentRecord) : Prop :=
  request.amount = intent.amountMinor ∧ request.currency = intent.asset ∧
    request.debitAccountID = intent.debitAccountID ∧
    request.creditAccountID = intent.creditAccountID

def Agrees (p : SettlementReconciledPayload) (intent : IntentRecord) : Prop :=
  p.amountMinor = intent.amountMinor ∧ p.asset = intent.asset ∧
    p.debitAccountID = intent.debitAccountID ∧ p.creditAccountID = intent.creditAccountID

/-- In every run of a consumer, finished or stopped, every posting is made for an event
whose intent was loaded, bound to the event and open; and it matches that intent if and
only if the event agrees with it. -/
theorem posting_matches_intent_iff [LedgerLibrary] {d : Decoders} {c : Consumer} {rounds : Nat}
    {trace before after : List (Event consumerCalls)} {rest : ConsumerWork (Option GoError)}
    {request : PostingRequest} {answer : Posting} (ran : Run (consume d c rounds) trace rest)
    (posted : trace = before ++ ⟨.post request, answer⟩ :: after) :
    ∃ p intent, (eventSeenIn before).known.event = some p ∧
      (eventSeenIn before).known.intent = some intent ∧ intent.boundTo p = true ∧
      intent.status.terminal = false ∧ (Matches request intent ↔ Agrees p intent) := by
  subst posted
  have startMeets : Meets consumerContract (fun _ _ => True) {} (consume d c rounds) :=
    consume_meets d c rounds
  have allowed := (Meets.run ran startMeets (relied_of_true _)).1
  obtain ⟨-, ⟨p, rfl, handled, intent, loaded, bound, open_⟩, -⟩ := allowed.split
  exact ⟨p, intent, handled, loaded, bound, open_, Iff.rfl⟩

/-! ## Events as JSON -/

/-- The payload of an event up to the digest in it, where no text has to be escaped and the
reference of the provider is empty. -/
def eventHead (p : SettlementReconciledPayload) : String :=
  "\x7b\"tenant_id\":\"" ++ p.tenantID ++ "\",\"intent_id\":\"" ++ p.intentID ++
    "\",\"idempotency_key\":\"" ++ p.idempotencyKey ++ "\",\"release_sha\":\"" ++ p.releaseSHA ++
    "\",\"reconciliation_run_id\":\"" ++ p.reconciliationRunID ++ "\",\"status\":\"" ++ p.status ++
    "\",\"asset\":\"" ++ p.asset ++ "\",\"amount_minor\":" ++ p.amountMinor.toNat.repr ++
    ",\"debit_account_id\":" ++ p.debitAccountID.toNat.repr ++
    ",\"credit_account_id\":" ++ p.creditAccountID.toNat.repr ++
    ",\"provider_final\":" ++ toString p.providerFinal ++
    ",\"business_effect\":" ++ toString p.businessEffect ++ ",\"evidence_sha256\":\""

/-- The envelope of an event up to its payload. -/
def envelopeHead (eventID : String) (p : SettlementReconciledPayload) : String :=
  "\x7b\"event_id\":\"" ++ eventID ++ "\",\"event_type\":\"" ++ settlementReconciledV1 ++
    "\",\"schema_version\":\"v1\",\"occurred_at\":\"2026-01-01T00:00:00Z\",\"correlation_id\":\"" ++
    p.intentID ++ "\",\"payload\":"

def recordOf (eventID : String) (p : SettlementReconciledPayload) : KafkaRecord where
  topic := "settlements"
  value := bytes (envelopeHead eventID p) ++
    (bytes (eventHead p) ++ bytes p.evidenceSHA256 ++ bytes "\"\x7d") ++ bytes "\x7d"

def between (head tail : String) (raw : List UInt8) : Option (List UInt8) :=
  let count := raw.length - (bytes head).length - (bytes tail).length
  let middle := (raw.drop (bytes head).length).take count
  if raw = bytes head ++ middle ++ bytes tail then some middle else none

/-- The digest in a payload of the event, if it is written in hexadecimal digits. -/
def readDigest (p : SettlementReconciledPayload) (raw : List UInt8) : Option String :=
  (between (eventHead p) "\"\x7d" raw).bind fun digest =>
    let text := digest.map fun byte => Char.ofNat byte.toNat
    if text.all isLowerHex then some (String.ofList text) else none

/-- `json.Unmarshal` on records of the given events and on their payloads; the digest that is
found is `digest` of the payload and of the one in it. -/
def decodersOf (digest : List UInt8 → String → Option String)
    (events : List (String × SettlementReconciledPayload)) : Decoders where
  envelope value :=
    match events.findSome? fun (eventID, p) =>
        (between (envelopeHead eventID p) "\x7d" value).map fun raw =>
          { eventID := eventID, eventType := settlementReconciledV1, schemaVersion := "v1",
            correlationID := p.intentID, payload := raw } with
    | some envelope => .ok envelope
    | none => .error (.new "invalid character")
  payload raw :=
    match events.findSome? fun (_, p) => ((readDigest p raw).bind (digest raw)).map fun evidence =>
      { p with evidenceSHA256 := evidence } with
    | some p => .ok p
    | none => .error (.new "invalid character")

/-! ## An event of another amount -/

def openIntent : IntentRecord where
  tenantID := "tenant-1"
  intentID := "00000000-0000-4000-8000-000000000001"
  idempotencyKey := "key-1"
  releaseSHA := "0123456789abcdef0123456789abcdef01234567"
  reconciliationRunID := "run-0001"
  status := .pending
  asset := "USDC"
  amountMinor := 100
  debitAccountID := 1
  creditAccountID := 2

/-- A final event of the intent, with an amount of its own and without a digest. -/
def settledEvent (amountMinor : UInt64) : SettlementReconciledPayload where
  tenantID := "tenant-1"
  intentID := "00000000-0000-4000-8000-000000000001"
  idempotencyKey := "key-1"
  releaseSHA := "0123456789abcdef0123456789abcdef01234567"
  reconciliationRunID := "run-0001"
  status := "SETTLED"
  asset := "USDC"
  amountMinor := amountMinor
  debitAccountID := 1
  creditAccountID := 2
  providerFinal := true
  businessEffect := true

def jsonDecoders (p : SettlementReconciledPayload) : Decoders :=
  decodersOf (fun _ evidence => some evidence) [("event-1", p)]

def settlements : Consumer := { topic := "settlements" }

def smoothly (p : SettlementReconciledPayload) : (call : ConsumerCall) → call.Answer
  | .pollFetches => .ok [recordOf "event-1" p]
  | .commitRecord _ => none
  | .now => 0
  | .ctxErr => none
  | .wait _ => none
  | .beginTx _ => none
  | .insertInbox _ _ _ => none
  | .selectReserved _ _ => .ok true
  | .selectIntent _ _ => .ok openIntent
  | .updateIntent _ _ _ _ _ => none
  | .insertDecision _ _ _ _ _ => none
  | .updateInbox _ _ _ => .ok 1
  | .commit => none
  | .rollback => ()
  | .evaluate _ => { decision := { allow := true } }
  | .post _ => ({}, none)

/-- A posting is made that satisfies `check` with the intent loaded for it. -/
def postsWhere (check : PostingRequest → IntentRecord → Bool) (past : List (Event consumerCalls)) :
    Event consumerCalls → Bool
  | ⟨.post request, _⟩ => (eventSeenIn past).known.intent.any (check request)
  | _ => false

theorem exists_posting (found : anyAt (postsWhere check) [] trace = true) :
    ∃ before request answer after, trace = before ++ ⟨.post request, answer⟩ :: after ∧
      ∃ intent, (eventSeenIn before).known.intent = some intent ∧ check request intent = true := by
  obtain ⟨before, ⟨call, answer⟩, after, split, holds⟩ := exists_of_anyAt found
  rw [List.nil_append] at holds
  cases call with
  | post request =>
    obtain ⟨intent, loaded, checked⟩ := (Option.any_eq_true _ _).mp holds
    exact ⟨before, request, answer, after, split, intent, loaded, checked⟩
  | _ => exact absurd holds Bool.false_ne_true

/-- The event is posted, with an intent that is loaded, bound and open. -/
theorem delivered_event_is_posted :
    ∃ (trace before after : List (Event consumerCalls)) (rest : ConsumerWork (Option GoError))
      (request : PostingRequest) (answer : Posting),
      Run (@consume asciiLedger (jsonDecoders (settledEvent 100)) settlements 1) trace rest ∧
      trace = before ++ ⟨.post request, answer⟩ :: after ∧
      ∃ p intent, (eventSeenIn before).known.event = some p ∧
        (eventSeenIn before).known.intent = some intent ∧ intent.boundTo p = true ∧
        intent.status.terminal = false ∧ (Matches request intent ↔ Agrees p intent) := by
  let := asciiLedger
  have ran := run_trace (smoothly (settledEvent 100)) (consume (jsonDecoders (settledEvent 100)) settlements 1)
  have found : anyAt (postsWhere fun request _ => request.amount = 100) []
      ((consume (jsonDecoders (settledEvent 100)) settlements 1).trace
        (smoothly (settledEvent 100))) = true := by
    decide +kernel
  obtain ⟨before, request, answer, after, split, -⟩ := exists_posting found
  exact ⟨_, before, after, _, request, answer, ran, split, posting_matches_intent_iff ran split⟩

/-- An intent of 100 is settled by a posting of 200. -/
theorem event_amount_is_posted :
    ∃ (trace before after : List (Event consumerCalls)) (rest : ConsumerWork (Option GoError))
      (request : PostingRequest) (answer : Posting) (intent : IntentRecord),
      Run (@consume asciiLedger (jsonDecoders (settledEvent 200)) settlements 1) trace rest ∧
      trace = before ++ ⟨.post request, answer⟩ :: after ∧
      (eventSeenIn before).known.intent = some intent ∧
      intent.amountMinor = 100 ∧ request.amount = 200 := by
  let := asciiLedger
  have found : anyAt (postsWhere fun request intent =>
      intent.amountMinor = 100 && request.amount = 200) []
      ((consume (jsonDecoders (settledEvent 200)) settlements 1).trace
        (smoothly (settledEvent 200))) = true := by
    decide +kernel
  obtain ⟨before, request, answer, after, split, intent, loaded, checked⟩ := exists_posting found
  obtain ⟨intended, posted⟩ := (Bool.and_eq_true _ _).mp checked
  exact ⟨_, before, after, _, request, answer, intent, run_trace _ _, split, loaded,
    of_decide_eq_true intended, of_decide_eq_true posted⟩

end UmojaFlowOS.Reconciliation
