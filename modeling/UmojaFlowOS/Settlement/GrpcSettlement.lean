import UmojaFlowOS.Settlement.SagaScan

/-!
# Settlement intents over gRPC

`intentToProto` and `intentFromProto` (`internal/settlement/grpc_settlement.go`). The message
has no fields for the countries, the corridor, the preferred rail and the digest of an intent.
-/

namespace UmojaFlowOS.Settlement

open Go

/-- `SettlementRequest`, the generated message. -/
structure SettlementRequest where
  intentID : String
  idempotencyKey : String
  tenantID : String
  direction : String
  asset : String
  fiat : String
  amountMinor : Int64
  destination : String
  canonicalPayload : List UInt8
  payloadSHA256 : String
  expiresAtRFC3339 : String

/-- The times that `time.RFC3339Nano` has a text for: the years from 0 to 9999. -/
def writableTime (t : Time) : Bool :=
  -366 * 86400000000000 ≤ t && t < 3652059 * 86400000000000

/-- `Format` and `time.Parse` with `time.RFC3339Nano`. A year outside of four digits is written,
and not read again. -/
structure TimeLayout where
  format : Time → String
  parse : String → Except GoError Time
  parse_format : ∀ t, writableTime t = true → parse (format t) = .ok t
  parse_beyond : ∀ t, writableTime t = false → ∃ err, parse (format t) = .error err

/-- `intentToProto` (lines 110-115). -/
def intentToProto (layout : TimeLayout) (now : Time) (intent : Intent) :
    Except GoError SettlementRequest :=
  match validateIntent now intent with
  | some err => .error err
  | none => .ok
    { intentID := intent.id
      idempotencyKey := intent.idempotencyKey
      tenantID := intent.tenantID
      direction := intent.direction.text
      asset := intent.asset
      fiat := intent.fiat
      amountMinor := intent.amountMinor
      destination := intent.destination
      canonicalPayload := intent.payload
      payloadSHA256 := payloadDigest intent.payload
      expiresAtRFC3339 := layout.format intent.expiresAt }

/-- `intentFromProto` (lines 117-130). -/
def intentFromProto [CaseTables] (layout : TimeLayout) (now : Time) (request : SettlementRequest) :
    Except GoError Intent :=
  if request.payloadSHA256 = "" ∨
      ¬ equalFold request.payloadSHA256 (payloadDigest request.canonicalPayload) then
    .error .invalidIntent
  else
    match layout.parse request.expiresAtRFC3339 with
    | .error _ => .error .invalidIntent
    | .ok expiry =>
      let intent : Intent :=
        { id := request.intentID
          idempotencyKey := request.idempotencyKey
          tenantID := request.tenantID
          direction := Direction.ofText request.direction
          asset := request.asset
          fiat := request.fiat
          amountMinor := request.amountMinor
          destination := request.destination
          payload := request.canonicalPayload
          expiresAt := expiry }
      match validateIntent now intent with
      | some err => .error err
      | none => .ok intent

/-- The intent that the other side has of one that was sent at one time and read at another. -/
def overGrpc [CaseTables] (layout : TimeLayout) (sent received : Time) (intent : Intent) :
    Except GoError Intent :=
  intentToProto layout sent intent >>= intentFromProto layout received

end UmojaFlowOS.Settlement
