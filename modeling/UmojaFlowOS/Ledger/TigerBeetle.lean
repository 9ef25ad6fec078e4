import UmojaFlowOS.Go.Strings
import UmojaFlowOS.Interaction.Contract
import UmojaFlowOS.Go.Errors
import Mathlib.Data.List.Nodup

/-!
# TigerBeetle and its client

What the ledger code calls, the part of TigerBeetle it relies on, and the
official-client adapter `TigerBeetleClient` (`internal/ledger/tigerbeetle.go`).
A transfer identifier is used once and a pending transfer is resolved once: both
are fields of `Cluster`, so a cluster that breaks them cannot be built. The functions
of `tigerbeetle-go` are a parameter, of which only what `LedgerLibrary` states is used.
-/

namespace UmojaFlowOS.Ledger

open Go Interaction

/-- `TransferMode` (`topology.go:27-38`), a string with four constants. -/
abbrev TransferMode := String

namespace TransferMode

def confirmed : TransferMode := "confirmed"

def pending : TransferMode := "pending"

def postPending : TransferMode := "post_pending"

def voidPending : TransferMode := "void_pending"

end TransferMode

/-- `Transfer` (`topology.go:40-48`). -/
structure Transfer where
  id : UInt64
  debitAccountID : UInt64
  creditAccountID : UInt64
  amount : UInt64
  currency : String
  pendingID : UInt64
  mode : TransferMode

/-- `TransferObservation` (`topology.go:59-68`); the defaults are Go's zero values. -/
structure TransferObservation where
  id : UInt64 := 0
  pendingID : UInt64 := 0
  debitAccountID : UInt64 := 0
  creditAccountID : UInt64 := 0
  amount : UInt64 := 0
  currency : String := ""
  mode : TransferMode := ""
  «exists» : Bool := false
  deriving DecidableEq

namespace Tb

abbrev Uint128 := BitVec 128

/-- The flags of `tb.TransferFlags` the client sets or reads. -/
structure TransferFlags where
  pending : Bool := false
  postPendingTransfer : Bool := false
  voidPendingTransfer : Bool := false
  deriving DecidableEq

/-- The fields of `tb.Transfer` the client sets or reads. The flags are a set of bits. -/
structure Transfer where
  id : Uint128
  debitAccountID : Uint128
  creditAccountID : Uint128
  amount : Uint128
  pendingID : Uint128
  ledger : UInt32
  code : UInt16
  flags : UInt16
  deriving DecidableEq

/-- Whether a transfer is pending (bit 1). -/
def Transfer.isPending (transfer : Transfer) : Bool := transfer.flags &&& 2 ≠ 0

/-- Whether a transfer posts or voids a pending one (bits 2 and 3). -/
def Transfer.resolves (transfer : Transfer) : Bool := transfer.flags &&& 12 ≠ 0

/-- The status of one transfer of a batch; every refusal has its own name. -/
inductive TransferStatus where
  | created
  | «exists»
  | refused (name : String)

/-- The transfers a cluster holds, oldest first. -/
structure Cluster where
  transfers : List Transfer := []
  usedOnce : (transfers.map (·.id)).Nodup := by decide
  resolvedOnce : ((transfers.filter (·.resolves)).map (·.pendingID)).Nodup := by decide

def Cluster.find (cluster : Cluster) (id : Uint128) : Option Transfer :=
  cluster.transfers.find? fun transfer => transfer.id = id

/-- A transfer that resolves another needs a pending one not resolved before. -/
def Cluster.resolvable (cluster : Cluster) (transfer : Transfer) : Bool :=
  !transfer.resolves ||
    (cluster.transfers.any fun pending => pending.id = transfer.pendingID && pending.isPending) &&
    !(cluster.transfers.any fun other => other.resolves && other.pendingID = transfer.pendingID)

theorem Cluster.id_notMem_of_find {cluster : Cluster} {transfer : Transfer}
    (absent : cluster.find transfer.id = none) : transfer.id ∉ cluster.transfers.map (·.id) := by
  rintro present
  obtain ⟨stored, member, same⟩ := List.mem_map.mp present
  have differs := List.find?_eq_none.mp absent stored member
  exact differs (by simpa using same)

def Cluster.insert (cluster : Cluster) (transfer : Transfer)
    (absent : cluster.find transfer.id = none) (free : cluster.resolvable transfer = true) :
    Cluster where
  transfers := cluster.transfers ++ [transfer]
  usedOnce := by
    rw [List.map_append, List.map_singleton]
    exact List.nodup_append.mpr ⟨cluster.usedOnce, List.nodup_singleton _, by
      rintro _ old _ new rfl
      rw [List.mem_singleton.mp new] at old
      exact id_notMem_of_find absent old⟩
  resolvedOnce := by
    rw [List.filter_append, List.map_append]
    cases kind : transfer.resolves with
    | false => simpa [kind] using cluster.resolvedOnce
    | true =>
      rw [List.filter_cons_of_pos kind, List.filter_nil, List.map_singleton]
      refine List.nodup_append.mpr ⟨cluster.resolvedOnce, List.nodup_singleton _, ?_⟩
      rintro _ old _ new rfl
      rw [List.mem_singleton.mp new] at old
      obtain ⟨other, member, same⟩ := List.mem_map.mp old
      obtain ⟨member, resolving⟩ := List.mem_filter.mp member
      simp only [resolvable, kind, Bool.not_true, Bool.false_or, Bool.and_eq_true,
        Bool.not_eq_true', List.any_eq_false] at free
      exact free.2 other member (by simp [resolving, same])

/-- One transfer of a batch: a stored identifier is answered by comparing all
fields, a new transfer is stored if it resolves nothing twice. `name` is the
status of a refusal. -/
def Cluster.create (cluster : Cluster) (transfer : Transfer) (name : String) :
    TransferStatus × Cluster :=
  match absent : cluster.find transfer.id with
  | some stored => (if stored = transfer then .exists else .refused name, cluster)
  | none =>
    if free : cluster.resolvable transfer then
      (.created, cluster.insert transfer absent free)
    else
      (.refused name, cluster)

def Cluster.createAll (cluster : Cluster) (name : String) :
    List Transfer → List TransferStatus × Cluster
  | [] => ([], cluster)
  | transfer :: batch =>
    let (status, cluster) := cluster.create transfer name
    let (statuses, cluster) := cluster.createAll name batch
    (status :: statuses, cluster)

end Tb

/-- What the ledger code is linked with: the case tables of Go, and of `tigerbeetle-go` the
functions `ToUint128`, `Uint128.Uint64` (the low and the high half), `TransferFlags.ToUint16`
and `Transfer.TransferFlags`. -/
class LedgerLibrary extends CaseTables where
  toUint128 : UInt64 → Tb.Uint128
  uint64 : Tb.Uint128 → UInt64 × UInt64
  toUint16 : Tb.TransferFlags → UInt16
  transferFlags : UInt16 → Tb.TransferFlags
  uint64_toUint128 (n : UInt64) : uint64 (toUint128 n) = (n, 0)
  toUint128_uint64 (n : Tb.Uint128) : (uint64 n).2 = 0 → toUint128 (uint64 n).1 = n
  transferFlags_toUint16 (flags : Tb.TransferFlags) : transferFlags (toUint16 flags) = flags

namespace Tb

export LedgerLibrary (toUint128)

theorem toUint128_injective [LedgerLibrary] (same : toUint128 m = toUint128 n) : m = n := by
  have halves := congrArg LedgerLibrary.uint64 same
  rw [LedgerLibrary.uint64_toUint128, LedgerLibrary.uint64_toUint128] at halves
  exact congrArg Prod.fst halves

/-- `Uint128.Uint64`. -/
def Uint128.uint64 [LedgerLibrary] (n : Uint128) : UInt64 × UInt64 := LedgerLibrary.uint64 n

def Transfer.transferFlags [LedgerLibrary] (transfer : Transfer) : TransferFlags :=
  LedgerLibrary.transferFlags transfer.flags

end Tb

@[reducible] def asciiLedger : LedgerLibrary where
  toCaseTables := asciiTables
  toUint128 n := n.toBitVec.setWidth 128
  uint64 n := (UInt64.ofBitVec (n.setWidth 64), UInt64.ofBitVec ((n >>> 64).setWidth 64))
  toUint16 flags := (if flags.pending then 2 else 0) ||| (if flags.postPendingTransfer then 4 else 0) |||
    if flags.voidPendingTransfer then 8 else 0
  transferFlags bits := ⟨bits &&& 2 ≠ 0, bits &&& 4 ≠ 0, bits &&& 8 ≠ 0⟩
  uint64_toUint128 n := by
    refine Prod.ext (by simp) (UInt64.toBitVec_inj.mp (BitVec.eq_of_toNat_eq ?_))
    have small := n.toNat_lt
    simp [Nat.shiftRight_eq_div_pow]
    omega
  toUint128_uint64 n low := by
    have high := congrArg (·.toBitVec.toNat) low
    apply BitVec.eq_of_toNat_eq
    have small := n.isLt
    simp [Nat.shiftRight_eq_div_pow] at high ⊢
    omega
  transferFlags_toUint16 := by
    rintro ⟨_ | _, _ | _, _ | _⟩ <;> rfl

/-! ## What the ledger code calls -/

/-- `PostedTransferFact` (`projection.go:11-19`); the defaults are Go's zero values. -/
structure PostedTransferFact where
  transferID : UInt64 := 0
  correlationID : String := ""
  currency : String := ""
  amount : UInt64 := 0
  debitAccountID : UInt64 := 0
  creditAccountID : UInt64 := 0
  postedAt : Int := 0

/-- `LedgerAuditEvent` (`audit.go:13-24`). -/
structure LedgerAuditEvent where
  event : String
  occurredAt : Int
  transferID : UInt64
  correlationID : String
  currency : String
  amountMinor : UInt64
  debitAccountID : UInt64
  creditAccountID : UInt64
  result : String

/-- The calls of the ledger code. -/
inductive LedgerPort where
  | ctxErr
  | now
  | beginReadOnly
  | bindTenant (tenantID : String)
  | selectBinding (tenantID direction asset fiat corridorID : String)
  | commitReadOnly
  | createTransfers (batch : List Tb.Transfer)
  | lookupTransfers (id : Tb.Uint128)
  | projectPostedTransfer (fact : PostedTransferFact)
  | writeLedgerEvent (event : LedgerAuditEvent)

@[reducible] def LedgerPort.Answer : LedgerPort → Type
  | ctxErr => Option GoError
  | now => Int
  | beginReadOnly => Option GoError
  | bindTenant _ => Option GoError
  | selectBinding _ _ _ _ _ => Except GoError (Int64 × Int64)
  | commitReadOnly => Option GoError
  | createTransfers _ => Except GoError (List Tb.TransferStatus)
  | lookupTransfers _ => Except GoError (List Tb.Transfer)
  | projectPostedTransfer _ => Option GoError
  | writeLedgerEvent _ => Option GoError

@[reducible] def ledgerPorts : Interface where
  Call := LedgerPort
  Answer := LedgerPort.Answer

/-- A ledger program: Go code of the ledger side. -/
abbrev LedgerCode (α : Type) := Program ledgerPorts α

def LedgerPort.call (port : LedgerPort) : LedgerCode port.Answer :=
  Program.ask (P := ledgerPorts) port

/-! ## The client adapter -/

/-- The fields of `ClusterConfig` (`topology.go:84-95`) the client reads. A map is
the list of its entries in the order Go happens to iterate. -/
structure ClusterConfig where
  currencyLedgers : List (String × UInt32)
  transferCode : UInt16

/-- `TigerBeetleClient` (lines 21-24). -/
structure TigerBeetleClient where
  config : ClusterConfig

namespace TigerBeetleClient

variable [CaseTables] (c : TigerBeetleClient)

/-- `ledgerForCurrency` (lines 58-64). -/
def ledgerForCurrency (currency : String) : Except GoError UInt32 :=
  match c.config.currencyLedgers.lookup (toUpper (trimSpace currency)) with
  | some ledger =>
    if ledger = 0 then
      .error (.new ("TigerBeetle ledger is not configured for currency " ++ quote currency))
    else .ok ledger
  | none => .error (.new ("TigerBeetle ledger is not configured for currency " ++ quote currency))

/-- The loop of `currencyForLedger` (lines 67-76). -/
def currencyFrom (target : UInt32) (currency : String) :
    List (String × UInt32) → Except GoError String
  | [] =>
    if currency = "" then
      .error (.new ("TigerBeetle response ledger " ++ toString target ++ " is not configured"))
    else .ok currency
  | (configured, ledger) :: entries =>
    if ledger ≠ target then currencyFrom target currency entries
    else if currency ≠ "" then
      .error (.new ("TigerBeetle ledger " ++ toString target ++
        " has ambiguous currency configuration"))
    else currencyFrom target (toUpper (trimSpace configured)) entries

/-- `currencyForLedger` (lines 66-81). -/
def currencyForLedger (target : UInt32) : Except GoError String :=
  currencyFrom target "" c.config.currencyLedgers

end TigerBeetleClient

/-- The mode of a transfer, where no mode is `confirmed` (lines 132-135). -/
def TransferMode.normalised (mode : TransferMode) : TransferMode :=
  if mode = "" then confirmed else mode

/-- `tigerBeetleTransferFlags` (lines 131-160). -/
def tigerBeetleTransferFlags [CaseTables] (transfer : Transfer) : Except GoError Tb.TransferFlags :=
  let mode := TransferMode.normalised transfer.mode
  if mode = .confirmed then
    if transfer.pendingID ≠ 0 then
      .error (.new "confirmed transfer must not reference a pending transfer")
    else .ok {}
  else if mode = .pending then
    if transfer.pendingID ≠ 0 then
      .error (.new "pending transfer must not reference another pending transfer")
    else .ok { pending := true }
  else if mode = .postPending then
    if transfer.pendingID = 0 then .error (.new "post-pending transfer requires pending id")
    else .ok { postPendingTransfer := true }
  else if mode = .voidPending then
    if transfer.pendingID = 0 then .error (.new "void-pending transfer requires pending id")
    else .ok { voidPendingTransfer := true }
  else
    .error (.new ("unsupported TigerBeetle transfer mode " ++ quote transfer.mode))

namespace TigerBeetleClient

variable [LedgerLibrary] (c : TigerBeetleClient)

/-- The body of the mapping loop of `CreateTransfers` (lines 223-249). -/
def mapTransfer (transfer : Transfer) : Except GoError Tb.Transfer := do
  if transfer.id = 0 ∨ transfer.debitAccountID = 0 ∨ transfer.creditAccountID = 0 ∨
      transfer.amount = 0 then
    .error (.new "TigerBeetle transfer id, accounts, and amount are required")
  else if transfer.debitAccountID = transfer.creditAccountID then
    .error (.new "TigerBeetle transfer must use distinct debit and credit accounts")
  else
    let ledger ← c.ledgerForCurrency transfer.currency
    let flags ← tigerBeetleTransferFlags transfer
    return { id := Tb.toUint128 transfer.id
             debitAccountID := Tb.toUint128 transfer.debitAccountID
             creditAccountID := Tb.toUint128 transfer.creditAccountID
             amount := Tb.toUint128 transfer.amount
             pendingID := Tb.toUint128 transfer.pendingID
             ledger := ledger
             code := c.config.transferCode
             flags := LedgerLibrary.toUint16 flags }

/-- The check of the results (lines 255-259), from `index` on. -/
def rejection (index : Nat) : List Tb.TransferStatus → Option GoError
  | [] => none
  | .refused name :: _ =>
    some (.new ("TigerBeetle rejected transfer at index " ++ toString index ++ ": " ++ name))
  | _ :: results => rejection (index + 1) results

/-- `CreateTransfers` (lines 210-264). -/
def createTransfers (transfers : List Transfer) : LedgerCode (Option GoError) := do
  if let some err ← LedgerPort.ctxErr.call then
    return some err
  if transfers = [] then
    return some (.new "at least one TigerBeetle transfer is required")
  if c.config.transferCode = 0 then
    return some (.new "TigerBeetle transfer code is required")
  match transfers.mapM c.mapTransfer with
  | .error err => return some err
  | .ok mapped =>
    match ← (LedgerPort.createTransfers mapped).call with
    | .error err => return some (.inContext "TigerBeetle create transfers" err)
    | .ok results =>
      if let some err := rejection 0 results then
        return some err
      if let some err ← LedgerPort.ctxErr.call then
        return some (.inContext "transfer outcome may be indeterminate after client deadline" err)
      return none

/-- The observation of one record (lines 183-207). -/
def observation (record : Tb.Transfer) : Except GoError TransferObservation := do
  let (transferID, hi) := record.id.uint64
  let (pendingID, pendingHi) := record.pendingID.uint64
  let (debit, debitHi) := record.debitAccountID.uint64
  let (credit, creditHi) := record.creditAccountID.uint64
  let (amount, amountHi) := record.amount.uint64
  if hi ≠ 0 ∨ pendingHi ≠ 0 ∨ debitHi ≠ 0 ∨ creditHi ≠ 0 ∨ amountHi ≠ 0 then
    .error (.new "TigerBeetle reconciliation record exceeds 64-bit platform ID or amount domain")
  else
    let currency ← c.currencyForLedger record.ledger
    let flags := record.transferFlags
    let mode : TransferMode :=
      if flags.voidPendingTransfer then .voidPending
      else if flags.postPendingTransfer then .postPending
      else if flags.pending then .pending
      else .confirmed
    return ⟨transferID, pendingID, debit, credit, amount, currency, mode, true⟩

/-- `LookupTransfer` (lines 166-208). -/
def lookupTransfer (id : UInt64) : LedgerCode (TransferObservation × Option GoError) := do
  if id = 0 then
    return ({}, some (.new "TigerBeetle transfer lookup requires a configured positive ID"))
  if let some err ← LedgerPort.ctxErr.call then
    return ({}, some err)
  match ← (LedgerPort.lookupTransfers (Tb.toUint128 id)).call with
  | .error err => return ({}, some (.inContext "TigerBeetle lookup transfers" err))
  | .ok [] => return ({ id := id }, none)
  | .ok [record] =>
    match c.observation record with
    | .error err => return ({}, some err)
    | .ok observation => return (observation, none)
  | .ok records =>
    return ({}, some (.new ("TigerBeetle lookup returned " ++ toString records.length ++
      " records for one ID")))

end TigerBeetleClient

end UmojaFlowOS.Ledger
