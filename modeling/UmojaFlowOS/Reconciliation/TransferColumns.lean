import UmojaFlowOS.Settlement.SagaScan
import UmojaFlowOS.Settlement.TigerBeetleSagaLedger
import UmojaFlowOS.Settlement.Proofs.StoreEffects

/-!
# Where transfer identifiers are kept

TigerBeetle identifiers of this system are unsigned 64-bit hashes. They are kept
in `bigint` columns: `settlement_saga` (written by `Advance` and
`ResolveUnknownSaga`), `stablecoin_intent` and `stablecoin_terminal_decision`
(written by `updateIntent` of the reconciliation consumer), and
`tigerbeetle_transfer_facts` (written by the control plane's
`recordInternalLedgerProjection`).
-/

namespace UmojaFlowOS.Reconciliation

open Go Crypto Relational Settlement

/-- `deterministicTransferID` (`idem_kafka_consumer.go:255-265`). -/
def deterministicTransferID (tenantID idempotencyKey : String) : UInt64 :=
  let digest := sha256 (bytes (tenantID ++ "\x00" ++ idempotencyKey))
  let id := (digest.take 8).foldl (fun (id : UInt64) b => (id <<< 8) ||| b.toUInt64) 0
  if id = 0 then 1 else id

/-- The columns a transfer identifier is written to, each by its statement. -/
inductive TransferColumn where
  | advancePending
  | advanceTransfer
  | resolvePending
  | resolveTransfer
  | intent
  | decision
  | fact

namespace TransferColumn

/-- A text cast to `bigint`. -/
def bigintOfText (text : String) : Except GoError Int :=
  match parseUint text with
  | none => .error (.database ("invalid input syntax for type bigint: \"" ++ text ++ "\""))
  | some id => IntType.bigint.read id.toNat

/-- The check on `tigerbeetle_transfer_id` (`0039_live_control_pipelines.sql:22`). -/
def checkedPositive (value : Int) : Except GoError Column :=
  if 0 < value then .ok (.int value)
  else .error (.database ("new row for relation \"tigerbeetle_transfer_facts\" violates check " ++
    "constraint \"tigerbeetle_transfer_facts_tigerbeetle_transfer_id_check\""))

/-- The column `tigerbeetle_transfer_facts.tigerbeetle_transfer_id` as it is inserted
(`server/postgres.ts:1716-1723`) from the decimal text the payment engine sends. -/
def factColumn (text : String) : Except GoError Column :=
  (bigintOfText text).bind checkedPositive

section
variable (inferred : IntType)

/-- What the statement leaves in the column. The Go stores send the identifier inside
`NULLIF($n,0)` (`postgres_saga.go:430`, `unknown_saga_store.go:187`,
`idem_kafka_consumer.go:335` and `339`); `inferred` is the type the server gives that parameter,
which is `integer`. Nothing below depends on that. -/
def write (column : TransferColumn) (id : UInt64) : Except GoError Column :=
  let parameter (position : Nat) := (uint64Parameter inferred position id).map nullifZero
  match column with
  | advancePending => parameter 6
  | advanceTransfer => parameter 7
  | resolvePending => parameter 5
  | resolveTransfer => parameter 6
  | intent => parameter 3
  | decision => parameter 2
  | fact => factColumn (formatUint id)

/-- The identifier read back, as `loadSagaForUpdate` does (`postgres_saga.go:339-344`). -/
def load (column : Column) : Except GoError UInt64 :=
  intoNullInt64 (fun value _ => positive value) column 0

/-- The first identifier the column cannot hold. -/
def bound : TransferColumn → Nat
  | fact => IntType.bigint.bound
  | _ => inferred.bound

theorem bound_le (column : TransferColumn) : column.bound inferred ≤ 2 ^ 63 := by
  cases column with
  | fact => exact IntType.bigint.bound_le
  | _ => exact inferred.bound_le

/-- The identifier can be written, and comes back as it was. -/
def Keeps (column : TransferColumn) (id : UInt64) : Prop :=
  ∃ stored, column.write inferred id = .ok stored ∧ load stored = .ok id

end

theorem load_nullifZero (id : UInt64) : load (nullifZero id.toNat) = .ok id := by
  unfold load nullifZero
  by_cases zero : (id.toNat : Int) = 0
  · have isZero : id = 0 := UInt64.toNat_inj.mp (by exact_mod_cast zero)
    rw [if_pos zero, isZero]
    rfl
  · rw [if_neg zero]
    exact congrArg Except.ok (positive_some id)

theorem nullifZero_of_ne_zero {id : UInt64} (nonzero : id ≠ 0) :
    nullifZero id.toNat = .int id.toNat := by
  have present : ¬ (id.toNat : Int) = 0 := by
    intro zero
    exact nonzero (UInt64.toNat_inj.mp (by exact_mod_cast zero))
  exact if_neg present

theorem bigintOfText_formatUint (id : UInt64) :
    bigintOfText (formatUint id) = IntType.bigint.read id.toNat := by
  unfold bigintOfText
  rw [parseUint_formatUint]

variable {column : TransferColumn} {inferred : IntType}

theorem write_of_lt {id : UInt64} (nonzero : id ≠ 0) (fits : id.toNat < column.bound inferred) :
    column.write inferred id = .ok (nullifZero id.toNat) := by
  cases column with
  | fact =>
    simp only [bound] at fits
    have present : (0 : Int) < id.toNat := by
      have := mt UInt64.toNat_inj.mp nonzero
      simp only [UInt64.toNat_zero] at this
      omega
    have read := IntType.read_of_lt fits
    rw [nullifZero_of_ne_zero nonzero]
    simp only [write, factColumn, bigintOfText_formatUint, read]
    exact if_pos present
  | advancePending | advanceTransfer | resolvePending | resolveTransfer | intent | decision =>
    simp only [bound] at fits
    simp only [write, uint64Parameter_of_lt _ fits, Except.map]

/-- From the bound of the column on, the statement fails. -/
theorem write_of_le {id : UInt64}
    (large : column.bound inferred ≤ id.toNat) : ∃ err, column.write inferred id = .error err := by
  cases column with
  | fact =>
    simp only [bound] at large
    obtain ⟨err, refused⟩ := IntType.read_of_le large
    refine ⟨err, ?_⟩
    simp only [write, factColumn, bigintOfText_formatUint, refused, Except.bind]
  | advancePending | advanceTransfer | resolvePending | resolveTransfer | intent | decision =>
    simp only [bound] at large
    obtain ⟨err, refused⟩ := uint64Parameter_of_le _ large
    exact ⟨err, congrArg (Except.map nullifZero) refused⟩

theorem keeps_iff {id : UInt64} (nonzero : id ≠ 0) :
    column.Keeps inferred id ↔ id.toNat < column.bound inferred := by
  constructor
  · rintro ⟨stored, written, -⟩
    by_contra large
    obtain ⟨err, refused⟩ := write_of_le (Nat.not_lt.mp large)
    rw [refused] at written
    cases written
  · intro fits
    exact ⟨_, write_of_lt nonzero fits, load_nullifZero id⟩

end TransferColumn

theorem deterministicTransferID_ne_zero (tenantID idempotencyKey : String) :
    deterministicTransferID tenantID idempotencyKey ≠ 0 := by
  unfold deterministicTransferID
  dsimp only
  split
  · decide
  · assumption

/-- For every input of the two hashes and every column, the identifier is kept
exactly when it lies below the bound of the column; every bound is at most `2 ^ 63`. -/
theorem transfer_id_is_kept_iff (inferred : IntType) (column : TransferColumn)
    (tenantID idempotencyKey payloadSHA256 operation : String) :
    (column.Keeps inferred
        (deterministicLedgerOperationID tenantID idempotencyKey payloadSHA256 operation) ↔
      (deterministicLedgerOperationID tenantID idempotencyKey payloadSHA256 operation).toNat <
        column.bound inferred) ∧
    (column.Keeps inferred (deterministicTransferID tenantID idempotencyKey) ↔
      (deterministicTransferID tenantID idempotencyKey).toNat < column.bound inferred) ∧
    column.bound inferred ≤ 2 ^ 63 := by
  have operation := deterministicLedgerOperationID_ne_zero tenantID idempotencyKey payloadSHA256
    operation
  have transfer := deterministicTransferID_ne_zero tenantID idempotencyKey
  exact ⟨TransferColumn.keeps_iff operation, TransferColumn.keeps_iff transfer,
    column.bound_le inferred⟩

theorem not_keeps_of_high_bit {inferred : IntType} {column : TransferColumn} {id : UInt64}
    (high : 2 ^ 63 ≤ id.toNat) : ¬ column.Keeps inferred id := by
  have nonzero : id ≠ 0 := by
    rintro rfl
    exact absurd high (by decide)
  have bound := column.bound_le inferred
  intro kept
  have fits := (TransferColumn.keeps_iff nonzero).mp kept
  omega

/-- The identifier of the deposit's pending transfer, which `Prepare` posts under
the key of its stage, and the one of a confirmed transfer with the key `key-4`
are kept nowhere, even where parameters are read as `bigint`. -/
theorem deposit_transfer_id_is_not_kept :
    ¬ TransferColumn.advancePending.Keeps .bigint
        (deterministicLedgerOperationID "tenant-a" "key-1:ledger_prepare"
          depositIntent.payloadSHA256 "pending") ∧
      ¬ TransferColumn.fact.Keeps .bigint
        (deterministicLedgerOperationID "tenant-a" "key-1:ledger_prepare"
          depositIntent.payloadSHA256 "pending") ∧
      ¬ TransferColumn.intent.Keeps .bigint (deterministicTransferID "tenant-a" "key-4") ∧
      ¬ TransferColumn.fact.Keeps .bigint (deterministicTransferID "tenant-a" "key-4") := by
  have pending : 2 ^ 63 ≤ (deterministicLedgerOperationID "tenant-a" "key-1:ledger_prepare"
      depositIntent.payloadSHA256 "pending").toNat := by
    decide +kernel
  have confirmed : 2 ^ 63 ≤ (deterministicTransferID "tenant-a" "key-4").toNat := by
    decide +kernel
  exact ⟨not_keeps_of_high_bit pending, not_keeps_of_high_bit pending,
    not_keeps_of_high_bit confirmed, not_keeps_of_high_bit confirmed⟩

end UmojaFlowOS.Reconciliation
