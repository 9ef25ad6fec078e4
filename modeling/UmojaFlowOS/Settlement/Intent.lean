import UmojaFlowOS.Crypto.Sha256
import UmojaFlowOS.Go.Strings
import UmojaFlowOS.Go.Errors

/-!
# Settlement intents and facts

The data model of `internal/settlement/all_rails.go` and its pure helpers:
validation of an intent, the digest that binds its payload, stage keys, and the
checks on ledger, provider and attestation facts.
-/

namespace UmojaFlowOS.Settlement

open Go Crypto

/-- A `time.Time` as nanoseconds since Go's zero time. -/
abbrev Time := Int

/-- `Direction` (lines 14-19); a request may carry any other string. -/
inductive Direction where
  | onramp
  | offramp
  | other (name : String)
  deriving DecidableEq

/-- `State` (lines 21-30); a provider may report any other string. -/
inductive State where
  | prepared
  | held
  | unknown
  | submitted
  | settled
  | failed
  | other (name : String)
  deriving DecidableEq

def Direction.text : Direction → String
  | onramp => "onramp"
  | offramp => "offramp"
  | other name => name

def State.text : State → String
  | prepared => "prepared"
  | held => "held"
  | unknown => "unknown"
  | submitted => "submitted"
  | settled => "settled"
  | failed => "failed"
  | other name => name

/-- `Intent` (lines 32-44). -/
structure Intent where
  id : String
  idempotencyKey : String
  tenantID : String
  asset : String
  fiat : String
  destination : String
  originCountry : String := ""
  destinationCountry : String := ""
  corridorID : String := ""
  preferredRail : String := ""
  direction : Direction
  amountMinor : Int64
  payload : List UInt8 := []
  payloadSHA256 : String := ""
  expiresAt : Time := 0
  deriving DecidableEq

/-- `ProviderResult` (lines 45-49); the fields default to Go's zero values. -/
structure ProviderResult where
  reference : String := ""
  blockchainTx : String := ""
  reason : String := ""
  state : State := .other ""
  retryableWithoutEffect : Bool := false

/-- `ScreenResult` (lines 50-53). -/
structure ScreenResult where
  decision : String
  caseID : String
  reason : String

/-- `LedgerFact` (lines 54-58). -/
structure LedgerFact where
  transferID : String := ""
  debitAccount : String := ""
  creditAccount : String := ""
  amountMinor : Int64 := 0
  currency : String := ""
  state : String := ""
  deriving DecidableEq

/-- `AttestationFact` (line 59). -/
structure AttestationFact where
  id : String
  releaseSHA : String
  evidenceID : String
  digest : String
  deriving DecidableEq

/-- `validDigest` (`postgres_saga.go:153-163`). -/
def validDigest (value : String) : Bool := validLowerHex value 64

/-- `PayloadDigest` (lines 433-436). -/
def payloadDigest (payload : List UInt8) : String := hexEncode (sha256 payload)

/-- `intentPayloadDigest` (lines 426-431). -/
def intentPayloadDigest (intent : Intent) : String :=
  if validDigest intent.payloadSHA256 then intent.payloadSHA256 else payloadDigest intent.payload

/-- `validateIntent` (lines 411-425) at the clock reading `now`; `none` is `nil`. -/
def validateIntent (now : Time) (intent : Intent) : Option GoError :=
  if trimSpace intent.id = "" ∨ trimSpace intent.idempotencyKey = "" ∨
      trimSpace intent.tenantID = "" ∨ trimSpace intent.asset = "" ∨ trimSpace intent.fiat = "" ∨
      intent.amountMinor ≤ 0 ∨ (intent.direction ≠ .onramp ∧ intent.direction ≠ .offramp) then
    some .invalidIntent
  else if intent.payload = [] ∧ ¬ validDigest intent.payloadSHA256 then
    some .invalidIntent
  else if intent.payload ≠ [] ∧ intent.payloadSHA256 ≠ "" ∧
      (¬ validDigest intent.payloadSHA256 ∨
        intent.payloadSHA256 ≠ payloadDigest intent.payload) then
    some .invalidIntent
  else if intent.expiresAt ≠ 0 ∧ intent.expiresAt < now then
    some (.wrap "" .invalidIntent ": expired")
  else
    none

/-- `stageIntent` (lines 365-369). -/
def stageIntent (intent : Intent) (stage : String) : Intent :=
  { intent with idempotencyKey := intent.idempotencyKey ++ ":" ++ stage }

/-- `settledFact` (lines 371-373). -/
def settledFact (result : ProviderResult) : Bool :=
  result.state = .settled && trimSpace result.reference ≠ ""

/-- `errOrMismatch` (lines 375-380). -/
def errOrMismatch (err : Option GoError) : GoError := err.getD .mismatch

/-- `boundedReason` (lines 382-391). -/
def boundedReason (reason : String) : String :=
  let reason := trimSpace reason
  if reason = "" then "unspecified"
  else if reason.utf8ByteSize > 160 then String.ofList (takeBytes 160 reason.toList)
  else reason

/-- `ledgerFactID` (lines 393-399). -/
def ledgerFactID (fact : LedgerFact) : Except GoError UInt64 :=
  match parseUint (trimSpace fact.transferID) with
  | some id =>
    if id = 0 then .error (.new "ledger fact transfer id must be a positive unsigned integer")
    else .ok id
  | none => .error (.new "ledger fact transfer id must be a positive unsigned integer")

/-- `validateLedgerFact` (lines 401-409). -/
def validateLedgerFact [CaseTables] (fact : LedgerFact) (intent : Intent) (expected : State) :
    Option GoError :=
  if fact.amountMinor ≠ intent.amountMinor ∨ ¬ equalFold fact.currency intent.fiat ∨
      ¬ equalFold fact.state expected.text then
    some .mismatch
  else if trimSpace fact.transferID = "" ∨ trimSpace fact.debitAccount = "" ∨
      trimSpace fact.creditAccount = "" then
    some .mismatch
  else
    none

/-- `Reconcile` (lines 438-446). -/
def reconcile (ledger : LedgerFact) (provider : ProviderResult) (att : AttestationFact)
    (expectedDigest : String) : Option GoError :=
  if ledger.state ≠ State.settled.text ∨ provider.state ≠ .settled then
    some .mismatch
  else if trimSpace provider.reference = "" ∨ trimSpace att.id = "" ∨
      att.digest ≠ expectedDigest then
    some .mismatch
  else
    none

theorem validDigest_payloadDigest (payload : List UInt8) :
    validDigest (payloadDigest payload) = true := by
  have hex := hexEncode_validLowerHex (sha256 payload)
  rwa [sha256_length] at hex

/-- The facts a valid intent carries; validation at a later clock reading adds
only the expiry check. -/
structure ValidIntent (intent : Intent) : Prop where
  id : trimSpace intent.id ≠ ""
  idempotencyKey : trimSpace intent.idempotencyKey ≠ ""
  tenantID : trimSpace intent.tenantID ≠ ""
  asset : trimSpace intent.asset ≠ ""
  fiat : trimSpace intent.fiat ≠ ""
  amountMinor : 0 < intent.amountMinor
  direction : intent.direction = .onramp ∨ intent.direction = .offramp
  digestOnly : intent.payload = [] → validDigest intent.payloadSHA256 = true
  bound : intent.payload ≠ [] → intent.payloadSHA256 ≠ "" →
    intent.payloadSHA256 = payloadDigest intent.payload

theorem validateIntent_of_valid (valid : ValidIntent intent) :
    validateIntent now intent =
      if intent.expiresAt ≠ 0 ∧ intent.expiresAt < now then
        some (.wrap "" .invalidIntent ": expired")
      else none := by
  have digest : intent.payload ≠ [] → intent.payloadSHA256 ≠ "" →
      validDigest intent.payloadSHA256 = true := by
    intro present given
    rw [valid.bound present given]
    exact validDigest_payloadDigest _
  unfold validateIntent
  rw [if_neg, if_neg, if_neg]
  · rintro ⟨present, given, invalid | differs⟩
    · exact invalid (digest present given)
    · exact differs (valid.bound present given)
  · rintro ⟨empty, invalid⟩
    exact invalid (valid.digestOnly empty)
  rintro (h | h | h | h | h | h | ⟨h1, h2⟩)
  · exact valid.id h
  · exact valid.idempotencyKey h
  · exact valid.tenantID h
  · exact valid.asset h
  · exact valid.fiat h
  · exact absurd valid.amountMinor (Int64.not_lt.mpr h)
  rcases valid.direction with d | d
  · exact h1 d
  · exact h2 d

/-- An intent passes exactly if it is valid and has not expired. -/
theorem validateIntent_eq_none_iff :
    validateIntent now intent = none ↔
      ValidIntent intent ∧ (intent.expiresAt = 0 ∨ now ≤ intent.expiresAt) := by
  constructor
  · intro passed
    unfold validateIntent at passed
    split_ifs at passed with fields payload bound expired
    simp only [not_or, not_and_or, not_not, Int64.not_le, not_lt] at fields payload bound expired
    obtain ⟨h1, h2, h3, h4, h5, h6, h7⟩ := fields
    refine ⟨⟨h1, h2, h3, h4, h5, h6, h7, ?_, ?_⟩, expired⟩
    · intro empty
      simpa [empty] using payload
    intro present given
    simp only [present, given, false_or] at bound
    exact bound.2
  rintro ⟨valid, unexpired⟩
  rw [validateIntent_of_valid valid, if_neg]
  rintro ⟨dated, expired⟩
  rcases unexpired with zero | later
  · exact dated zero
  · exact absurd later (not_le.mpr expired)

/-- A deposit of 25 KES, for the runs that are played through. -/
def depositIntent : Intent :=
  { id := "intent-1", idempotencyKey := "key-1", tenantID := "tenant-a", asset := "USDC",
    fiat := "KES", destination := "wallet-1", direction := .onramp, amountMinor := 2500,
    payloadSHA256 := "aaaaaaaaaaaaaaaaaaaaaaaaaaaaaaaaaaaaaaaaaaaaaaaaaaaaaaaaaaaaaaaa" }

def corridorIntent : Intent := { depositIntent with corridorID := "ke-ng" }

end UmojaFlowOS.Settlement
