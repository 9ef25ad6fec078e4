import UmojaFlowOS.Alerting.DutiesMonitor
import UmojaFlowOS.Attestation.Proofs.CanonicalBytes
import UmojaFlowOS.Attestation.Proofs.Resubmission
import UmojaFlowOS.Attestation.Proofs.SingleKey
import UmojaFlowOS.Attestation.SubjectPublicKey
import UmojaFlowOS.Fencing.Proofs.Admissions
import UmojaFlowOS.Fencing.Proofs.LocalFlags
import UmojaFlowOS.Ledger.Proofs.RoundTrip
import UmojaFlowOS.LedgerGateway.CivilDate
import UmojaFlowOS.LedgerGateway.Proofs.Reconciliation
import UmojaFlowOS.LedgerGateway.Proofs.Validation
import UmojaFlowOS.Multirail.Proofs.Agreement
import UmojaFlowOS.Multirail.Proofs.AwaitingEvidence
import UmojaFlowOS.Multirail.Proofs.PayloadBinding
import UmojaFlowOS.Multirail.Proofs.RepeatedCalls
import UmojaFlowOS.Multirail.Proofs.RetryDelay
import UmojaFlowOS.Multirail.Proofs.UnknownOutcome
import UmojaFlowOS.Payments.Proofs.Approvals
import UmojaFlowOS.Payments.Proofs.DraftReplay
import UmojaFlowOS.Payments.Proofs.LockCancellation
import UmojaFlowOS.Reconciliation.Proofs.EvidenceDigest
import UmojaFlowOS.Reconciliation.Proofs.TerminalIntents
import UmojaFlowOS.Retention.DeleteService
import UmojaFlowOS.Settlement.Proofs.GrpcRoundTrip
import UmojaFlowOS.Settlement.Proofs.LiquidityHeadroom
import UmojaFlowOS.Settlement.Proofs.OutboxDelivery
import UmojaFlowOS.Settlement.Proofs.OutboxPayload
import UmojaFlowOS.Settlement.Proofs.ProviderKeys
import UmojaFlowOS.Settlement.Proofs.RepeatedCalls
import UmojaFlowOS.Settlement.Proofs.Reservation
