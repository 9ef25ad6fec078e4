import UmojaFlowOS.Relational.Table
import UmojaFlowOS.Settlement.Ports

/-!
# The settlement tables

`settlement_saga`, `settlement_saga_transition`, `settlement_outbox` and
`settlement_unknown_resolution_authorization` with their keys and checks
(`database/postgresql/0062_durable_settlement_saga_outbox.sql` and
`0063_settlement_unknown_reconciliation_authorization.sql`). A NULL text is the
empty string and a NULL identifier is `0`, as the store reads them back. The
columns of the outbox publisher are left out: no modelled statement uses them.
-/

namespace UmojaFlowOS.Settlement

open Go

/-- A row of `settlement_saga`; the lease columns are those `0063` adds. -/
structure SagaRow where
  record : SettlementRecord
  leaseOwner : String := ""
  leasedUntil : Option Time := none
  attempts : Nat := 0

structure TransitionRow where
  tenantID : String
  sagaID : String
  version : Nat
  source : ExecutionStage
  target : ExecutionStage
  reason : String
  payloadSHA256 : String
  createdAt : Time

/-- PostgreSQL text holds every character but NUL. -/
def textOk (text : String) : Bool := !text.toList.contains '\x00'

/-- A row of `settlement_outbox` (`0062:91-109`). Its body is JSON that the store
writes itself, so a row carries the checks on the body and its digest. -/
structure OutboxRow where
  tenantID : String
  eventID : String
  sagaID : String
  stage : ExecutionStage
  eventType : String
  payload : String
  payloadSHA256 : String
  reconciliationRunID : String
  availableAt : Time
  payloadOk : textOk payload = true
  digestOk : validDigest payloadSHA256 = true

/-- A row of `settlement_unknown_resolution_authorization`; `consumed` holds
`consumed_at` and `consumed_by`, which its check makes NULL together. -/
structure AuthorizationRow where
  authorization : ResolutionAuthorization
  issuedAt : Time
  verifiedAt : Time
  consumed : Option (Time × String) := none
  deriving DecidableEq

structure Database where
  sagas : List SagaRow := []
  transitions : List TransitionRow := []
  outbox : List OutboxRow := []
  authorizations : List AuthorizationRow := []

/-! ## Keys and checks -/

namespace SagaRow

def sagaKey (row : SagaRow) : String × String := (row.record.tenantID, row.record.sagaID)

/-- The key callers name a saga by. -/
def key (row : SagaRow) : String × String := (row.record.tenantID, row.record.idempotencyKey)

end SagaRow

def bigintOk (id : UInt64) : Bool := id.toNat < 2 ^ 63

section
variable (hexOk : String → Nat → Bool) (textOk : String → Bool)

/-- The column types and checks of `settlement_saga` (`0062:9-48`), from those of its digests
and texts. -/
def SagaRow.passes (row : SagaRow) : Bool :=
  let r := row.record
  hexOk r.payloadSHA256 64 && (r.direction = .onramp || r.direction = .offramp) &&
    0 < r.amountMinor && r.stage ≠ .unset && 0 < r.version && r.version < 2 ^ 63 &&
    bigintOk r.ledgerPendingID && bigintOk r.ledgerTransferID &&
    terminalStage r.stage = r.terminalAt.isSome &&
    [r.tenantID, r.sagaID, r.intentID, r.idempotencyKey, r.asset, r.fiat, r.destination, r.routeID,
      r.providerReference, r.custodyReference, r.blockchainTx, r.attestationID, r.failureClass,
      r.reconciliationRunID, row.leaseOwner].all textOk

/-- The checks of `settlement_saga_transition` (`0062:73-86`). -/
def TransitionRow.passes (row : TransitionRow) : Bool :=
  0 < row.version && hexOk row.payloadSHA256 64 && textOk row.reason

/-- The checks of `settlement_unknown_resolution_authorization` (`0063:12-28`). -/
def AuthorizationRow.passes (row : AuthorizationRow) : Bool :=
  let a := row.authorization
  (a.decision = .commit || a.decision = .void || a.decision = .hold) &&
    hexOk a.releaseSHA 40 && hexOk a.manifestSHA256 64 && hexOk a.evidenceSHA256 64 &&
    8 ≤ a.reconciliationRunID.length && row.issuedAt < a.expiresAt &&
    [a.tenantID, a.sagaID, a.authorizationID, a.reconciliationRunID].all textOk

end

def SagaRow.ok (row : SagaRow) : Bool := row.passes validLowerHex textOk

def TransitionRow.ok (row : TransitionRow) : Bool := row.passes validLowerHex textOk

def AuthorizationRow.ok (row : AuthorizationRow) : Bool := row.passes validLowerHex textOk

/-- The checks of `settlement_outbox` that a row does not carry. -/
def OutboxRow.ok (row : OutboxRow) : Bool := textOk row.reconciliationRunID

def AuthorizationRow.key (row : AuthorizationRow) : String × String × String :=
  (row.authorization.tenantID, row.authorization.sagaID, row.authorization.authorizationID)

/-- The primary, unique and foreign keys and the row checks of the four tables.
`UNIQUE NULLS NOT DISTINCT` treats the NULL identifier `0` like any other. -/
structure WellFormed (db : Database) : Prop where
  sagaKey : (db.sagas.map SagaRow.sagaKey).Nodup
  intentKey : (db.sagas.map fun row => (row.record.tenantID, row.record.intentID)).Nodup
  key : (db.sagas.map SagaRow.key).Nodup
  pendingKey : (db.sagas.map fun row => (row.record.tenantID, row.record.ledgerPendingID)).Nodup
  transferKey : (db.sagas.map fun row => (row.record.tenantID, row.record.ledgerTransferID)).Nodup
  sagaOk : ∀ row ∈ db.sagas, row.ok = true
  transitionKey : (db.transitions.map fun row => (row.tenantID, row.sagaID, row.version)).Nodup
  transitionSaga : ∀ row ∈ db.transitions, (row.tenantID, row.sagaID) ∈ db.sagas.map SagaRow.sagaKey
  transitionOk : ∀ row ∈ db.transitions, row.ok = true
  eventKey : (db.outbox.map fun row => (row.tenantID, row.eventID)).Nodup
  stageKey : (db.outbox.map fun row => (row.tenantID, row.sagaID, row.stage)).Nodup
  eventSaga : ∀ row ∈ db.outbox, (row.tenantID, row.sagaID) ∈ db.sagas.map SagaRow.sagaKey
  eventOk : ∀ row ∈ db.outbox, row.ok = true
  authorizationKey : (db.authorizations.map AuthorizationRow.key).Nodup
  activeKey : ((db.authorizations.filter (·.consumed.isNone)).map fun row =>
    (row.authorization.tenantID, row.authorization.sagaID)).Nodup
  authorizationSaga : ∀ row ∈ db.authorizations,
    (row.authorization.tenantID, row.authorization.sagaID) ∈ db.sagas.map SagaRow.sagaKey
  authorizationOk : ∀ row ∈ db.authorizations, row.ok = true

/-! The checks that read every character of a text are decided on its bytes. -/

def textBytesOk (text : String) : Bool := (bytes text).all (· ≠ 0)

theorem textOk_eq_bytes : textOk = textBytesOk := by
  funext text
  have chars : textOk text = text.toList.all (· ≠ '\x00') := by
    rw [Bool.eq_iff_iff]
    grind [textOk]
  rw [chars, textBytesOk, all_bytes fun c => ?_]
  obtain ⟨b, same, small⟩ | ⟨large, b, rest, same, high⟩ := utf8EncodeChar_cases c
  · have zero : b = 0 ↔ c = '\x00' := by
      rw [← UInt8.toNat_inj, small, ← Char.toNat_inj]
      rfl
    simp [same, zero]
  have solid : c ≠ '\x00' := by
    rintro rfl
    exact absurd large (by decide)
  have nonzero : ∀ x ∈ b :: rest, x ≠ 0 := by
    rintro x member rfl
    exact absurd (high 0 member) (by decide)
  rw [same, decide_eq_true solid, List.all_eq_true]
  exact fun x member => decide_eq_true (nonzero x member)

theorem validLowerHex_eq_lowerHexBytes : validLowerHex = lowerHexBytes :=
  funext₂ validLowerHex_eq_bytes

instance (db : Database) : Decidable (WellFormed db) :=
  decidable_of_iff
    ((db.sagas.map SagaRow.sagaKey).Nodup ∧
      (db.sagas.map fun row => (row.record.tenantID, row.record.intentID)).Nodup ∧
      (db.sagas.map SagaRow.key).Nodup ∧
      (db.sagas.map fun row => (row.record.tenantID, row.record.ledgerPendingID)).Nodup ∧
      (db.sagas.map fun row => (row.record.tenantID, row.record.ledgerTransferID)).Nodup ∧
      (∀ row ∈ db.sagas, row.passes lowerHexBytes textBytesOk = true) ∧
      (db.transitions.map fun row => (row.tenantID, row.sagaID, row.version)).Nodup ∧
      (∀ row ∈ db.transitions, (row.tenantID, row.sagaID) ∈ db.sagas.map SagaRow.sagaKey) ∧
      (∀ row ∈ db.transitions, row.passes lowerHexBytes textBytesOk = true) ∧
      (db.outbox.map fun row => (row.tenantID, row.eventID)).Nodup ∧
      (db.outbox.map fun row => (row.tenantID, row.sagaID, row.stage)).Nodup ∧
      (∀ row ∈ db.outbox, (row.tenantID, row.sagaID) ∈ db.sagas.map SagaRow.sagaKey) ∧
      (∀ row ∈ db.outbox, row.ok = true) ∧
      (db.authorizations.map AuthorizationRow.key).Nodup ∧
      ((db.authorizations.filter (·.consumed.isNone)).map fun row =>
        (row.authorization.tenantID, row.authorization.sagaID)).Nodup ∧
      (∀ row ∈ db.authorizations,
        (row.authorization.tenantID, row.authorization.sagaID) ∈ db.sagas.map SagaRow.sagaKey) ∧
      ∀ row ∈ db.authorizations, row.passes lowerHexBytes textBytesOk = true)
    (by
    rw [← validLowerHex_eq_lowerHexBytes, ← textOk_eq_bytes]
    exact ⟨fun ⟨h1, h2, h3, h4, h5, h6, h7, h8, h9, h10, h11, h12, h13, h14, h15, h16, h17⟩ =>
      ⟨h1, h2, h3, h4, h5, h6, h7, h8, h9, h10, h11, h12, h13, h14, h15, h16, h17⟩,
      fun h => ⟨h.1, h.2, h.3, h.4, h.5, h.6, h.7, h.8, h.9, h.10, h.11, h.12, h.13, h.14, h.15, h.16,
        h.17⟩⟩)

end UmojaFlowOS.Settlement
