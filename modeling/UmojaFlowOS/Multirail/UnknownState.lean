import UmojaFlowOS.Go.Json
import UmojaFlowOS.Multirail.Failover

/-!
# Unknown provider outcomes and their decisions

The records of `services/payment-engine/multirail/unknown_reconciliation.go`: the
durable state of an instruction whose outcome is unknown, and the decision a
reconciler takes about it, with the digest of its evidence.
-/

namespace UmojaFlowOS.Multirail

open Crypto Go

def Status.text : Status → String
  | .prepared => "prepared"
  | .submitted => "submitted"
  | .pending => "pending"
  | .settled => "settled"
  | .held => "held"
  | .failed => "failed"
  | .unknown => "unknown"
  | .other text => text

/-- `UnknownState` (lines 15-24). -/
structure UnknownState where
  intent : Intent
  primaryRail : String := ""
  providerRef : String := ""
  observedStatus : Status := .other ""
  attempts : Nat := 0
  nextAttemptAt : Time := 0
  lastError : String := ""
  leaseToken : String := ""

/-- `ReconciliationDecision` (lines 26-33). The decision table's
`CHECK` admits these four texts only. -/
inductive ReconciliationDecision where
  | providerAccepted
  | confirmedNonSubmission
  | awaitingEvidence
  | quarantined
  deriving DecidableEq

namespace ReconciliationDecision

def text : ReconciliationDecision → String
  | providerAccepted => "provider_accepted_no_settlement_authority"
  | confirmedNonSubmission => "confirmed_non_submission"
  | awaitingEvidence => "awaiting_provider_evidence"
  | quarantined => "quarantined_reconciliation_failure"

/-- The decisions of the index `provider_reconciliation_terminal_once_idx`
(0053_provider_unknown_reconciliation.sql:47-53). -/
def terminal (d : ReconciliationDecision) : Bool := d ≠ awaitingEvidence

end ReconciliationDecision

/-- `ReconciliationResult` (lines 35-48). -/
structure ReconciliationResult where
  intentID : String := ""
  idempotencyKey : String := ""
  primaryRail : String := ""
  providerRef : String := ""
  decision : ReconciliationDecision
  observedStatus : Status := .other ""
  settlementAllowed : Bool := false
  attempt : Nat := 0
  decidedAt : Time := 0
  reason : String := ""
  evidenceDigest : String := ""
  leaseToken : String := ""

/-- `evidenceDigest` (lines 140-153). The time is not hashed. -/
def evidenceDigest (s : UnknownState) (d : ReconciliationDecision) (status : Status)
    (reason : String) : String :=
  hexEncode (sha256 (bytes (jsonObject [
    ("intent_id", .str s.intent.id),
    ("idempotency_key", .str s.intent.idempotencyKey),
    ("primary_rail", .str s.primaryRail),
    ("provider_ref", .str s.providerRef),
    ("decision", .str d.text),
    ("status", .str status.text),
    ("attempt", .num s.attempts),
    ("reason", .str reason)])))

/-- `ReconciliationWorker.result` (lines 155-162). -/
def ReconciliationResult.of (s : UnknownState) (d : ReconciliationDecision) (status : Status)
    (decidedAt : Time) (reason : String) : ReconciliationResult where
  intentID := s.intent.id
  idempotencyKey := s.intent.idempotencyKey
  primaryRail := s.primaryRail
  providerRef := s.providerRef
  decision := d
  observedStatus := status
  leaseToken := s.leaseToken
  settlementAllowed := false
  attempt := s.attempts
  decidedAt := decidedAt
  reason := reason
  evidenceDigest := Multirail.evidenceDigest s d status reason

end UmojaFlowOS.Multirail
