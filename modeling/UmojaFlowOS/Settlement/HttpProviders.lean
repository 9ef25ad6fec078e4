import UmojaFlowOS.Go.Json
import UmojaFlowOS.Settlement.Ports

/-!
# Fiat and custody providers over HTTP

`HTTPFiatRail` and `HTTPCustodyProvider` (`internal/settlement/http_providers.go`)
as programs that send one request each: what is sent for a port call, and what the
port answers for each way the exchange can go.
-/

namespace UmojaFlowOS.Settlement

open Go Interaction

/-- The fields of `HTTPProviderConfig` (lines 19-24) the two rails read. -/
structure HTTPProviderConfig where
  baseURL : String
  token : String := ""

section
variable (cfg : HTTPProviderConfig)

/-- The fields of `providerEnvelope` (lines 39-49) the two rails read. -/
structure ProviderEnvelope where
  reference : String := ""
  state : State := .other ""
  reason : String := ""
  blockchainTx : String := ""
  retryableWithoutEffect : Bool := false

structure HttpRequest where
  method : String
  url : String
  headers : List (String × String)
  body : String

/-- How an exchange can go: not built, not sent, not read, or read with its status and what
`json.Unmarshal` makes of it. -/
inductive HttpAnswer where
  | notBuilt (err : GoError)
  | notSent (err : GoError)
  | notRead (err : GoError)
  | replied (status : Nat) (envelope : Except GoError ProviderEnvelope)

@[reducible] def http : Interface where
  Call := HttpRequest
  Answer _ := HttpAnswer

def trimRightSlash (s : String) : String :=
  String.ofList (s.toList.reverse.dropWhile (· = '/')).reverse

def trimLeftSlash (s : String) : String := String.ofList (s.toList.dropWhile (· = '/'))

section
variable (method path body idempotency : String)

/-- What `doJSON` sends (lines 52-66). -/
def providerRequest :
    HttpRequest :=
  { method := method
    url := trimRightSlash cfg.baseURL ++ "/" ++ trimLeftSlash path
    headers := [("Content-Type", "application/json"), ("Accept", "application/json"),
      ("Idempotency-Key", idempotency)] ++
      if cfg.token ≠ "" then [("Authorization", "Bearer " ++ cfg.token)] else []
    body := body }

/-- `doJSON` (lines 51-85). -/
def doJSON :
    Program http (Except GoError ProviderEnvelope) := do
  let answer ← Program.ask (P := http) (providerRequest cfg method path body idempotency)
  match answer with
  | .notBuilt err => return .error (.inContext "build provider request" err)
  | .notSent err => return .error (.inContext "provider transport failure" err)
  | .notRead err => return .error (.inContext "provider response read failure" err)
  | .replied status envelope =>
    if status < 200 ∨ status ≥ 300 then
      return .error (.new ("provider returned HTTP " ++ Nat.repr status))
    match envelope with
    | .error err => return .error (.inContext "provider returned malformed JSON" err)
    | .ok out => return .ok out

end

/-- `intentPayload` (lines 87-89), marshalled with sorted keys. -/
def intentPayload (intent : Intent) : String :=
  jsonFields [("amount_minor", toString intent.amountMinor.toInt),
    ("asset", jsonString intent.asset), ("destination", jsonString intent.destination),
    ("direction", jsonString intent.direction.text), ("fiat", jsonString intent.fiat),
    ("intent_id", jsonString intent.id),
    ("payload_sha256", jsonString (payloadDigest intent.payload)),
    ("tenant_id", jsonString intent.tenantID)]

/-- `HTTPFiatRail.call` (lines 101-111). -/
def HTTPFiatRail.call (path : String) (intent : Intent) :
    Program http (ProviderResult × Option GoError) := do
  match ← doJSON cfg "POST" path (intentPayload intent) intent.idempotencyKey with
  | .error err => return ({ state := .unknown, reason := "fiat provider outcome unknown" }, some err)
  | .ok out =>
    if out.state = .unknown then
      return ({ state := .unknown }, some .unknown)
    return ({
      reference := out.reference
      state := out.state
      reason := out.reason
      retryableWithoutEffect := out.retryableWithoutEffect }, none)

/-- `HTTPCustodyProvider.call` (lines 155-165). -/
def HTTPCustodyProvider.call (path : String) (intent : Intent) :
    Program http (ProviderResult × Option GoError) := do
  match ← doJSON cfg "POST" path (intentPayload intent) intent.idempotencyKey with
  | .error err => return ({ state := .unknown, reason := "custody outcome unknown" }, some err)
  | .ok out =>
    if out.state = .unknown then
      return ({ state := .unknown }, some .unknown)
    return ({
      reference := out.reference
      blockchainTx := out.blockchainTx
      state := out.state
      reason := out.reason
      retryableWithoutEffect := out.retryableWithoutEffect }, none)

end

structure Rails where
  fiat : HTTPProviderConfig
  custody : HTTPProviderConfig

/-- The calls of the ports that are served over HTTP, with the leg each belongs to. -/
inductive ProviderCall where
  | collect (intent : Intent)
  | payout (intent : Intent)
  | queryFiat (intent : Intent)
  | submitTransfer (intent : Intent)
  | queryTransfer (intent : Intent)

namespace ProviderCall

def port : ProviderCall → Port
  | collect intent => .collect intent
  | payout intent => .payout intent
  | queryFiat intent => .queryFiat intent
  | submitTransfer intent => .submitTransfer intent
  | queryTransfer intent => .queryTransfer intent

def intent : ProviderCall → Intent
  | collect intent => intent
  | payout intent => intent
  | queryFiat intent => intent
  | submitTransfer intent => intent
  | queryTransfer intent => intent

/-- `Collect`, `Payout`, `Query` (lines 115-123), `SubmitTransfer` and
`QueryTransfer` (lines 138-143). -/
def serve (rails : Rails) : ProviderCall → Program http (ProviderResult × Option GoError)
  | collect intent => HTTPFiatRail.call rails.fiat "collect" intent
  | payout intent => HTTPFiatRail.call rails.fiat "payout" intent
  | queryFiat intent => HTTPFiatRail.call rails.fiat "status" intent
  | submitTransfer intent => HTTPCustodyProvider.call rails.custody "transfers" intent
  | queryTransfer intent => HTTPCustodyProvider.call rails.custody "transfers/status" intent

/-- The query asks for the outcome of the command. -/
def AsksAfter : ProviderCall → ProviderCall → Prop
  | queryFiat _, collect _ => True
  | queryFiat _, payout _ => True
  | queryTransfer _, submitTransfer _ => True
  | _, _ => False

end ProviderCall

def HttpRequest.idempotencyKey (request : HttpRequest) : Option String :=
  (request.headers.find? (·.1 = "Idempotency-Key")).map Prod.snd

end UmojaFlowOS.Settlement
