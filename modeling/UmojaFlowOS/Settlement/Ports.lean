import UmojaFlowOS.Ledger.TigerBeetle
import UmojaFlowOS.Settlement.Saga

/-!
# The ports of the settlement service

Everything `Coordinator` and `UnknownSagaReconciler` call: the saga store, the
screening, routing and liquidity services, the fiat and custody rails, the
finality provider, the ledger, the attestor and the clock. An answer is the
pair Go returns, so a port may report a value together with an error.
-/

namespace UmojaFlowOS.Settlement

open Interaction Ledger

/-- `CorridorRoute` (`corridor_liquidity.go:24-42`). -/
structure CorridorRoute where
  id : String
  tenantID : String
  originCountry : String
  destinationCountry : String
  sourceCurrency : String
  destinationCurrency : String
  direction : Direction
  asset : String
  rails : List String
  providerPriority : List String
  minAmountMinor : Int64
  maxAmountMinor : Int64
  quoteTTL : Int
  liquidityBufferBps : Int64
  settlementCutoff : Time
  enabled : Bool
  version : Int64
  deriving DecidableEq

/-- `RouteDecision` (`corridor_liquidity.go:44-50`). -/
structure RouteDecision where
  route : CorridorRoute
  provider : String
  rail : String
  expiresAt : Time
  policyHash : String
  deriving DecidableEq

/-- The fields of `LiquidityDecision` (`corridor_liquidity.go:67-72`) the
coordinator reads. -/
structure LiquidityDecision where
  allowed : Bool
  reason : String

/-- The decision of a resolution authorization: `"commit"`, `"void"`, `"hold"` or
any other string a caller may put there. -/
inductive Decision where
  | commit
  | void
  | hold
  | other (name : String)
  deriving DecidableEq

def Decision.text : Decision → String
  | commit => "commit"
  | void => "void"
  | hold => "hold"
  | other name => name

/-- `ResolutionAuthorization` (`unknown_saga_store.go:19-29`). -/
structure ResolutionAuthorization where
  tenantID : String := ""
  sagaID : String := ""
  authorizationID : String := ""
  decision : Decision := .other ""
  releaseSHA : String := ""
  manifestSHA256 : String := ""
  reconciliationRunID : String := ""
  evidenceSHA256 : String := ""
  expiresAt : Time := 0
  deriving DecidableEq

/-- `LedgerObservation` (`tigerbeetle_saga_ledger.go:89-93`). -/
structure LedgerObservation where
  pending : TransferObservation := {}
  committed : TransferObservation := {}
  voided : TransferObservation := {}

/-- The methods of `SagaStore` and `UnknownSagaStore`. -/
inductive StoreCall where
  | reserve (intent : Intent) (digest : String)
  | advance (current : SettlementRecord) (next : ExecutionStage) (update : SagaUpdate)
  | markHeld (record : SettlementRecord) (reason : String)
  | markUnknown (record : SettlementRecord) (reason : String)
  | claimUnknownSagas (tenantID owner : String) (limit lease : Int)
  | findResolutionAuthorization (tenantID sagaID : String) (decision : Decision)
  | resolveUnknownSaga (current : SettlementRecord) (owner : String)
      (authorization : ResolutionAuthorization) (update : SagaUpdate)
  deriving DecidableEq

@[reducible] def StoreCall.Answer : StoreCall → Type
  | reserve _ _ => SettlementRecord × Bool × Option GoError
  | advance _ _ _ => SettlementRecord × Option GoError
  | markHeld _ _ => Option GoError
  | markUnknown _ _ => Option GoError
  | claimUnknownSagas _ _ _ _ => List SettlementRecord × Option GoError
  | findResolutionAuthorization _ _ _ => ResolutionAuthorization × Bool × Option GoError
  | resolveUnknownSaga _ _ _ _ => SettlementRecord × Option GoError

/-- The methods of `Ledger` and `UnknownSagaLedger`. -/
inductive LedgerCall where
  | prepare (intent : Intent)
  | commit (intent : Intent) (pending : LedgerFact)
  | void (intent : Intent) (pending : LedgerFact) (reason : String)
  | observe (intent : Intent) (pendingID : UInt64)
  deriving DecidableEq

@[reducible] def LedgerCall.Answer : LedgerCall → Type
  | prepare _ => LedgerFact × Option GoError
  | commit _ _ => LedgerFact × Option GoError
  | void _ _ _ => Option GoError
  | observe _ _ => LedgerObservation × Option GoError

/-- The methods of the other ports, and the clock `time.Now`. -/
inductive Port where
  | now
  | store (call : StoreCall)
  | screen (intent : Intent)
  | route (intent : Intent)
  | verifyLiquidity (intent : Intent) (route : RouteDecision)
  | ledger (call : LedgerCall)
  | collect (intent : Intent)
  | payout (intent : Intent)
  | queryFiat (intent : Intent)
  | submitTransfer (intent : Intent)
  | queryTransfer (intent : Intent)
  | isFinal (blockchainTx asset : String)
  | attest (intent : Intent) (digest : String)
  | verifyAttestation (att : AttestationFact)
  deriving DecidableEq

@[reducible] def Port.Answer : Port → Type
  | now => Time
  | store call => call.Answer
  | screen _ => ScreenResult × Option GoError
  | route _ => RouteDecision × Option GoError
  | verifyLiquidity _ _ => LiquidityDecision × Option GoError
  | ledger call => call.Answer
  | collect _ => ProviderResult × Option GoError
  | payout _ => ProviderResult × Option GoError
  | queryFiat _ => ProviderResult × Option GoError
  | submitTransfer _ => ProviderResult × Option GoError
  | queryTransfer _ => ProviderResult × Option GoError
  | isFinal _ _ => Bool × Option GoError
  | attest _ _ => AttestationFact × Option GoError
  | verifyAttestation _ => Bool × Option GoError

@[reducible] def ports : Interface where
  Call := Port
  Answer := Port.Answer

abbrev Saga (α : Type) := Program ports α

abbrev Call := Event ports

def call (port : Port) : Saga port.Answer := Program.ask (P := ports) port

abbrev History := List Call

theorem meets_call_bind {guar : History → Port → Prop} {α : Type} {post : History → α → Prop}
    {history : History} {port : Port} {rest : port.Answer → Saga α} :
    Meets (onHistory anyAnswer guar) post history (call port >>= rest) ↔
      guar history port ∧ ∀ answer : port.Answer,
        Meets (onHistory anyAnswer guar) post (history ++ [⟨port, answer⟩]) (rest answer) :=
  meets_ask_bind.trans (and_congr_right fun _ =>
    forall_congr' fun _ => ⟨fun meets => meets trivial, fun meets _ => meets⟩)

end UmojaFlowOS.Settlement
