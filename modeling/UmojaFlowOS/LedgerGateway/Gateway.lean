import UmojaFlowOS.Go.Strings
import UmojaFlowOS.TypeScript.Zod

/-!
# The ledger gateway

The two checks of the Rust service (`services/ledger-gateway/src/lib.rs`) and the envelopes
it answers with (`main.rs`): whether a set of postings balances per currency, and whether a
transfer that TigerBeetle has confirmed agrees with its projection in PostgreSQL. An
envelope is the JSON value that `serde_json` writes; the counters of the service are left
out.
-/

namespace UmojaFlowOS.LedgerGateway

open Go TypeScript

/-- `s.trim().is_empty()`. White space is the same to Rust and to Go. -/
def blank (s : String) : Bool := s.toList.all isSpace

/-! ## Balances -/

/-- `Posting` (lib.rs:7-12). -/
structure Posting where
  accountID : String
  currency : String
  debitMinor : Int
  creditMinor : Int
  deriving DecidableEq

/-- `LedgerError` (lib.rs:15-21). -/
inductive LedgerError where
  | emptyPostingSet
  | missingAccount
  | missingCurrency
  | negativeAmount
  | unbalanced (currency : String) (netMinor : Int)

/-- What an `i128` keeps of a result. -/
def wrap128 (n : Int) : Int := Int.bmod n (2 ^ 128)

/-- A `BTreeMap` from currencies to nets, in the order of its keys. -/
abbrev Balances := List (String × Int)

/-- `*balances.entry(currency).or_default() += change` (lib.rs:93-94). -/
def Balances.add (currency : String) (change : Int) : Balances → Balances
  | [] => [(currency, wrap128 change)]
  | (key, net) :: rest =>
    if currency = key then (key, wrap128 (net + change)) :: rest
    else if currency < key then (currency, wrap128 change) :: (key, net) :: rest
    else (key, net) :: Balances.add currency change rest

/-- The loop over the postings (lib.rs:83-95). -/
def balancesFrom (balances : Balances) : List Posting → Except LedgerError Balances
  | [] => .ok balances
  | posting :: postings =>
    if blank posting.accountID then .error .missingAccount
    else if blank posting.currency then .error .missingCurrency
    else if posting.debitMinor < 0 ∨ posting.creditMinor < 0 then .error .negativeAmount
    else balancesFrom
      (balances.add posting.currency (wrap128 (posting.debitMinor - posting.creditMinor))) postings

/-- `validate_balanced` (lib.rs:78-105). -/
def validateBalanced (postings : List Posting) : Except LedgerError Unit :=
  if postings = [] then .error .emptyPostingSet
  else do
    let balances ← balancesFrom [] postings
    match balances.find? fun balance => balance.2 ≠ 0 with
    | some (currency, netMinor) => .error (.unbalanced currency netMinor)
    | none => .ok ()

def Posting.json (posting : Posting) : Json :=
  .object [("account_id", .string posting.accountID), ("currency", .string posting.currency),
    ("debit_minor", .integer posting.debitMinor), ("credit_minor", .integer posting.creditMinor)]

/-- `PostingValidationEnvelope` (main.rs:133-140). -/
def validationEnvelope (postings : List Posting) (imbalance : Option (String × Int)) : Json :=
  .object [("service", .string "umojaflowos-ledger-gateway"), ("contract_version", .string "v1"),
    ("envelope_type", .string "umojaflowos.ledger.posting_validation.v1"),
    ("postings", .array (postings.map Posting.json)), ("balanced", .bool imbalance.isNone),
    ("imbalance", imbalance.elim .null fun (currency, netMinor) =>
      .object [("currency", .string currency), ("net_minor", .integer netMinor)])]

/-- `validate_postings` (main.rs:148-182): the envelope, or the error of a response with
status 422. -/
def validatePostings (postings : List Posting) : Except LedgerError Json :=
  match validateBalanced postings with
  | .ok () => .ok (validationEnvelope postings none)
  | .error (.unbalanced currency netMinor) =>
    .ok (validationEnvelope postings (some (currency, netMinor)))
  | .error err => .error err

/-! ## Reconciliation -/

/-- `ConfirmedTransferFact` (lib.rs:24-30). -/
structure ConfirmedTransferFact where
  transferID : UInt64
  correlationID : String
  currency : String
  amountMinor : UInt64
  postedAt : String

/-- `PostgresProjectionRecord` (lib.rs:33-39). -/
structure PostgresProjectionRecord where
  transferID : UInt64
  correlationID : String
  currency : String
  amountMinor : UInt64
  projectedAt : String

/-- `ReconciliationError` (lib.rs:42-46). -/
inductive ReconciliationError where
  | incompleteConfirmedFact
  | incompleteProjection
  | mismatch
  deriving DecidableEq

/-- The texts of the contract (main.rs:227-232). -/
def ReconciliationError.text : ReconciliationError → String
  | incompleteConfirmedFact => "INCOMPLETE_CONFIRMED_FACT"
  | incompleteProjection => "INCOMPLETE_PROJECTION"
  | mismatch => "MISMATCH"

/-- `verify_projection` (lib.rs:48-76), with the reason of a discrepancy. -/
def verifyProjection (fact : ConfirmedTransferFact) (projection : PostgresProjectionRecord) :
    Option ReconciliationError :=
  if fact.transferID = 0 ∨ blank fact.correlationID ∨ blank fact.currency ∨
      fact.amountMinor = 0 ∨ blank fact.postedAt then
    some .incompleteConfirmedFact
  else if projection.transferID = 0 ∨ blank projection.correlationID ∨
      blank projection.currency ∨ projection.amountMinor = 0 ∨ blank projection.projectedAt then
    some .incompleteProjection
  else if fact.transferID ≠ projection.transferID ∨
      fact.correlationID ≠ projection.correlationID ∨ fact.currency ≠ projection.currency ∨
      fact.amountMinor ≠ projection.amountMinor then
    some .mismatch
  else none

/-- `reconcile_projection` (main.rs:222-260). -/
def reconcileProjection (fact : ConfirmedTransferFact) (projection : PostgresProjectionRecord) :
    Json :=
  let discrepancy := verifyProjection fact projection
  .object [("service", .string "umojaflowos-ledger-gateway"), ("contract_version", .string "v1"),
    ("envelope_type", .string "umojaflowos.ledger.projection_reconciliation.v1"),
    ("confirmed_fact", .object [("transfer_id", .integer fact.transferID.toNat),
      ("correlation_id", .string fact.correlationID), ("currency", .string fact.currency),
      ("amount_minor", .integer fact.amountMinor.toNat), ("posted_at", .string fact.postedAt)]),
    ("projection", .object [("transfer_id", .integer projection.transferID.toNat),
      ("correlation_id", .string projection.correlationID),
      ("currency", .string projection.currency),
      ("amount_minor", .integer projection.amountMinor.toNat),
      ("projected_at", .string projection.projectedAt)]),
    ("reconciled", .bool discrepancy.isNone),
    ("discrepancy_reason", discrepancy.elim .null fun reason => .string reason.text)]

end UmojaFlowOS.LedgerGateway
