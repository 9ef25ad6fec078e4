import UmojaFlowOS.Settlement.Proofs.ReconcilerRuns
import UmojaFlowOS.Settlement.Proofs.SagaHistory
import UmojaFlowOS.Settlement.Proofs.SagaLedger

/-!
# What recovery sees of the ledger

`Observe` looks for the commit and the void of a saga under identifiers derived
from the saga's own key, while both are posted under identifiers derived from the
key of their stage. The accounts of a recovered intent are those of the original
one except for the corridor, which the saga row does not keep.
-/

namespace UmojaFlowOS.Settlement

open Go Crypto Interaction Ledger PostgresSagaStore TigerBeetleSagaLedger

/-- What the ledger identifiers of a saga are derived from: tenant, idempotency
key and payload digest. -/
def ledgerKey (intent : Intent) : String × String × String :=
  (intent.tenantID, intent.idempotencyKey, intentPayloadDigest intent)

/-! ## The identifiers looked up -/

/-- The identifiers looked up in a run, in order. -/
def lookups (trace : List (Event ledgerPorts)) : List Tb.Uint128 :=
  trace.filterMap fun
    | ⟨.lookupTransfers id, _⟩ => some id
    | _ => none

/-- The contract that only records the lookups. -/
def lookupContract : Contract ledgerPorts (List Tb.Uint128) where
  rely _ _ := True
  guar _ _ := True
  observe ids event := ids ++ lookups [event]

theorem foldl_lookups (trace : List (Event ledgerPorts)) (ids : List Tb.Uint128) :
    trace.foldl lookupContract.observe ids = ids ++ lookups trace := by
  induction trace generalizing ids with
  | nil => simp [lookups]
  | cons event trace ih =>
    rw [List.foldl_cons, ih]
    show ids ++ lookups [event] ++ lookups trace = ids ++ lookups ([event] ++ trace)
    rw [List.append_assoc, lookups, lookups, lookups, List.filterMap_append]

theorem lookups_of_run {α : Type} {program : LedgerCode α} {post : List Tb.Uint128 → α → Prop}
    (meets : Meets lookupContract post [] program) {trace : List (Event ledgerPorts)} {value : α}
    (ran : Run program trace (.ret value)) : post (lookups trace) value := by
  have relied : ∀ trace ids, Relied lookupContract ids trace := by
    intro trace
    induction trace with
    | nil => exact fun _ => trivial
    | cons event trace ih => exact fun _ => ⟨trivial, ih _⟩
  have ends := (meets.run ran (relied trace [])).2
  rwa [foldl_lookups, List.nil_append] at ends

theorem silent_call_meets {port : LedgerPort} {α : Type} {post : List Tb.Uint128 → α → Prop}
    {ids : List Tb.Uint128} {rest : port.Answer → LedgerCode α}
    (silent : ∀ answer, lookups [⟨port, answer⟩] = [])
    (next : ∀ answer, Meets lookupContract post ids (rest answer)) :
    Meets lookupContract post ids (port.call >>= rest) := by
  refine ⟨trivial, fun answer _ => ?_⟩
  show Meets lookupContract post (ids ++ lookups [⟨port, answer⟩]) (rest answer)
  rw [silent, List.append_nil]
  exact next answer

section
variable [LedgerLibrary]

theorem resolveSettlementAccounts_lookups (intent : Intent) (ids : List Tb.Uint128) :
    Meets lookupContract (fun later _ => later = ids) ids (resolveSettlementAccounts intent) := by
  refine silent_call_meets (fun _ => rfl) fun now => ?_
  split
  · rfl
  refine silent_call_meets (fun _ => rfl) fun begun => ?_
  rcases begun with _ | err
  case some => rfl
  refine silent_call_meets (fun _ => rfl) fun bound => ?_
  rcases bound with _ | err
  case some => rfl
  refine silent_call_meets (fun _ => rfl) fun row => ?_
  rcases row with err | ⟨debit, credit⟩
  · dsimp only
    split <;> rfl
  dsimp only
  split
  · rfl
  refine silent_call_meets (fun _ => rfl) fun committed => ?_
  cases committed <;> rfl

theorem lookupTransfer_lookups (s : PostingService) (id : UInt64) (ids : List Tb.Uint128) :
    Meets lookupContract (fun later answer => answer.2 = none → later = ids ++ [Tb.toUint128 id]) ids
      (s.lookupTransfer id) := by
  unfold PostingService.lookupTransfer
  split
  case h_2 => exact nofun
  split
  · exact nofun
  unfold TigerBeetleClient.lookupTransfer
  split
  · exact nofun
  refine silent_call_meets (fun _ => rfl) fun err => ?_
  rcases err with _ | err
  case some => exact nofun
  refine ⟨trivial, ?_⟩
  rintro (err | _ | ⟨record, _ | _⟩) -
  · exact nofun
  · exact fun _ => rfl
  · dsimp only [Program.bind]
    split
    · exact nofun
    · exact fun _ => rfl
  · exact nofun

/-- `Observe` looks up three identifiers, two of them of its own making. -/
theorem observe_lookups (l : TigerBeetleSagaLedger) (intent : Intent) (pendingID : UInt64) :
    Meets lookupContract (fun later answer => answer.2 = none →
      later = [Tb.toUint128 pendingID, Tb.toUint128 (operationID intent "commit"),
        Tb.toUint128 (operationID intent "void")]) [] (l.observe intent pendingID) := by
  unfold observe
  split
  case h_2 => exact nofun
  split
  · exact nofun
  refine (resolveSettlementAccounts_lookups intent []).bind ?_
  rintro _ (err | accounts) rfl
  · exact nofun
  refine (lookupTransfer_lookups _ pendingID []).bind ?_
  rintro ids ⟨pending, _ | err⟩ looked
  case some => exact nofun
  obtain rfl := looked rfl
  refine (lookupTransfer_lookups _ _ _).bind ?_
  rintro ids ⟨committed, _ | err⟩ looked
  case some => exact nofun
  obtain rfl := looked rfl
  refine (lookupTransfer_lookups _ _ _).bind ?_
  rintro ids ⟨voided, _ | err⟩ looked
  case some => exact nofun
  exact fun _ => looked rfl

end

/-! ## The identifiers posted under -/

/-- The commit or the void of a call: which lookup of `Observe` is meant for it. -/
def resolution : LedgerCall → Option (Nat × String)
  | .commit _ _ => some (1, "commit")
  | .void _ _ _ => some (2, "void")
  | _ => none

section
variable [LedgerLibrary]

/-- The ledger calls made for a saga, by a coordinator or by the reconciler. -/
inductive IssuedFor (saga : String × String × String) : LedgerCall → Prop
  | coordinator {c : Coordinator} {intent : Intent} {trace : History} {rest : Saga Outcome}
      {call : LedgerCall} {answer : call.Answer} : ledgerKey intent = saga →
      Run (execute c intent) trace rest → (⟨.ledger call, answer⟩ : Call) ∈ trace →
      IssuedFor saga call
  | reconciler {w : UnknownSagaReconciler} {record : SettlementRecord} {trace : History}
      {rest : Saga (Option GoError)} {call : LedgerCall} {answer : call.Answer} :
      ledgerKey (recoveryIntent record) = saga → Run (reconcileRecord w record) trace rest →
      (⟨.ledger call, answer⟩ : Call) ∈ trace → IssuedFor saga call

/-- Commits and voids are issued under the key of their stage. -/
theorem staged_of_issued {call : LedgerCall} (issued : IssuedFor saga call) :
    ∃ intent, ledgerKey intent = saga ∧
      (∀ i pending, call = .commit i pending → i = stageIntent intent "ledger_commit") ∧
      ∀ i pending reason, call = .void i pending reason → i = stageIntent intent "ledger_void" := by
  cases issued with
  | @coordinator c intent _ _ _ _ same ran present =>
    obtain ⟨before, after, split⟩ := List.append_of_mem present
    have allowed := guar_of_run ran split
    refine ⟨intent, same, ?_, ?_⟩
    · rintro i pending rfl
      exact allowed.2.2.1
    · rintro i pending reason rfl
      exact allowed.2.2.1
  | @reconciler w record _ _ _ _ same ran present =>
    obtain ⟨before, after, split⟩ := List.append_of_mem present
    have allowed := reconcilerGuar_of_run ran split
    refine ⟨recoveryIntent record, same, ?_, ?_⟩
    · rintro i pending rfl
      exact allowed.1
    · rintro i pending reason rfl
      exact allowed.1

end

section
variable (saga : String × String × String)

section
variable (operation : String)

def observedPreimage : String :=
  operationPreimage saga.1 saga.2.1 saga.2.2 operation

/-- What is hashed to post that operation. -/
def postedPreimage : String :=
  operationPreimage saga.1 (saga.2.1 ++ ":" ++ ("ledger_" ++ operation)) saga.2.2 operation

theorem observedPreimage_ne_postedPreimage :
    observedPreimage saga operation ≠ postedPreimage saga operation := by
  intro same
  have lengths := congrArg String.length same
  simp only [observedPreimage, postedPreimage, operationPreimage, String.length_append] at lengths
  have colon : (":" : String).length = 1 := rfl
  omega

/-- Two different strings of the saga have the same identifier: the first eight
bytes of their hashes agree, up to the replacement of 0 by 1. -/
def Collides : Prop :=
  observedPreimage saga operation ≠ postedPreimage saga operation ∧
    operationIDOf (sha256 (bytes (observedPreimage saga operation))) =
      operationIDOf (sha256 (bytes (postedPreimage saga operation)))

end

end

variable {intent : Intent}

theorem operationID_eq (same : ledgerKey intent = saga) (operation : String) :
    operationID intent operation =
      operationIDOf (sha256 (bytes (observedPreimage saga operation))) := by
  subst same
  rfl

theorem operationID_stageIntent (same : ledgerKey intent = saga)
    (named : stage = "ledger_" ++ operation) :
    operationID (stageIntent intent stage) operation =
      operationIDOf (sha256 (bytes (postedPreimage saga operation))) := by
  subst same named
  rfl

/-- The lookup `Observe` makes for the commit (the void) of a saga is one of the
transfer that commits (voids) it only if two different strings collide under the
truncated hash. -/
theorem observed_as_posted_iff [LedgerLibrary] {l : TigerBeetleSagaLedger}
    {saga : String × String × String} {call : LedgerCall} {place : Nat} {operation : String}
    {posting : List (Event ledgerPorts)} {rest : LedgerCode call.Answer} {transfer : Tb.Transfer}
    {observing : Intent} {pendingID : UInt64} {reading : List (Event ledgerPorts)}
    {observation : LedgerObservation}
    (issued : IssuedFor saga call) (resolves : resolution call = some (place, operation))
    (posted : Run (l.serve call) posting rest) (submitted : transfer ∈ submissions posting)
    (same : ledgerKey observing = saga)
    (observed : Run (l.observe observing pendingID) reading (.ret (observation, none))) :
    (lookups reading)[place]? = some transfer.id ↔ Collides saga operation := by
  obtain ⟨intent, key, commits, voids⟩ := staged_of_issued issued
  have looked := lookups_of_run (observe_lookups l observing pendingID) observed rfl
  have submits := submits_of_run posted submitted
  -- Both sides name the same two hashes, whichever of the two operations it is.
  obtain ⟨lookedUp, sent⟩ : (lookups reading)[place]? =
        some (Tb.toUint128 (operationIDOf (sha256 (bytes (observedPreimage saga operation))))) ∧
      transfer.id =
        Tb.toUint128 (operationIDOf (sha256 (bytes (postedPreimage saga operation)))) := by
    rw [looked]
    cases call with
    | prepare | observe => cases resolves
    | commit i pending =>
      cases resolves
      obtain ⟨_, _, sent⟩ := submits
      rw [commits i pending rfl] at sent
      exact ⟨by rw [← operationID_eq same]; rfl,
        by rw [sent.id, operationID_stageIntent key (by decide)]⟩
    | void i pending reason =>
      cases resolves
      obtain ⟨_, _, sent⟩ := submits
      rw [voids i pending reason rfl] at sent
      exact ⟨by rw [← operationID_eq same]; rfl,
        by rw [sent.id, operationID_stageIntent key (by decide)]⟩
  rw [lookedUp, sent, Option.some.injEq]
  exact ⟨fun equal => ⟨observedPreimage_ne_postedPreimage saga operation,
    Tb.toUint128_injective equal⟩, fun collides => congrArg _ collides.2⟩

/-! ## A commit that is not observed -/

def platformLedger : TigerBeetleSagaLedger :=
  { poster := some { client := some ⟨⟨[("KES", 404)], 1⟩⟩ } }

theorem onramp_direction : "onramp" = "onramp" ∨ "onramp" = "offramp" := .inl rfl

theorem own_debit : (0 : Int64) < 1 := by decide

theorem own_credit : (0 : Int64) < 2 := by decide

theorem own_accounts : (1 : Int64) ≠ 2 := by decide

def depositBinding : AccountBinding :=
  { tenantID := "tenant-a", direction := "onramp", asset := "USDC", fiat := "KES",
    debitAccountID := 11, creditAccountID := 12, directionOk := onramp_direction }

def depositBindings : AccountBindings := { rows := [depositBinding] }

def resolvingChoices : List LedgerChoice :=
  [.reads 1, .replies "", .replies "", .replies "", .replies ""]

def postingChoices : List LedgerChoice :=
  [.reads 1] ++ resolvingChoices ++ [.replies "", .replies "", .replies "", .reads 1]

/-- `Prepare` and `Commit` of a deposit, then `Observe` as the reconciler calls it: the errors,
the flags of the transfers, and whether a commit was observed. -/
def observeAfterCommit : Option (List (Option GoError) × List Tb.TransferFlags × Bool) := do
  let ((pending, prepareErr), s) ← Program.serve LedgerState.exec
    { emptyLedger with bindings := depositBindings }
    (@prepare asciiLedger platformLedger
      (stageIntent depositIntent "ledger_prepare")) postingChoices
  let ((_, commitErr), s) ← Program.serve LedgerState.exec s
    (@commit asciiLedger platformLedger
      (stageIntent depositIntent "ledger_commit") pending) (postingChoices ++ [.replies ""])
  let pendingID ← (ledgerFactID pending).toOption
  let ((observation, observeErr), s) ← Program.serve LedgerState.exec s
    (@observe asciiLedger platformLedger depositIntent pendingID)
    (resolvingChoices ++ List.replicate 6 (.replies ""))
  return ([prepareErr, commitErr, observeErr], s.cluster.transfers.map (@Tb.Transfer.transferFlags asciiLedger),
    observation.committed.exists)

/-- The commit is posted, and `Observe` reports that there is none. -/
theorem posted_commit_is_not_observed :
    observeAfterCommit = some ([none, none, none],
      [{ pending := true }, { postPendingTransfer := true }], false) := by
  decide +kernel

/-- A ledger that confirms everything and knows the pending transfer 41. -/
def confirmingLedger : (port : LedgerPort) → port.Answer
  | .ctxErr => none
  | .now => 1
  | .beginReadOnly => none
  | .bindTenant _ => none
  | .selectBinding tenantID direction asset fiat corridorID =>
    depositBindings.select tenantID direction asset fiat corridorID
  | .commitReadOnly => none
  | .createTransfers batch => .ok (batch.map fun _ => .created)
  | .lookupTransfers id =>
    .ok (if id = 41 then [⟨41, 11, 12, 2500, 0, 404, 1, 2⟩] else [])
  | .projectPostedTransfer _ => none
  | .writeLedgerEvent _ => none

theorem called_of_any (call : LedgerCall) (history : History)
    (asked : history.any (fun event => event.call = .ledger call) = true) :
    ∃ answer, (⟨.ledger call, answer⟩ : Call) ∈ history := by
  obtain ⟨⟨port, answer⟩, present, same⟩ := List.any_eq_true.mp asked
  obtain rfl : port = .ledger call := of_decide_eq_true same
  exact ⟨answer, present⟩

def depositCommit : LedgerCall :=
  .commit (stageIntent depositIntent "ledger_commit") ⟨"41", "1", "2", 2500, "KES", "prepared"⟩

/-- The commit of a deposit is posted, and `Observe` does not find it. -/
theorem deposit_commit_is_not_looked_up :
    let posting := (@serve asciiLedger platformLedger depositCommit).trace
      confirmingLedger
    let reading := (@observe asciiLedger platformLedger depositIntent 41).trace
      confirmingLedger
    (submissions posting).length = 1 ∧
      ∀ transfer ∈ submissions posting, (lookups reading)[1]? ≠ some transfer.id := by
  let _ := asciiLedger
  obtain ⟨answer, asked⟩ := called_of_any depositCommit
    ((execute {} depositIntent).trace confirmingPorts) (by decide)
  have succeeds : ((platformLedger.observe depositIntent 41).value confirmingLedger).2 = none := by
    decide +kernel
  have apart : ¬ Collides (ledgerKey depositIntent) "commit" := fun collides =>
    absurd collides.2 (by decide +kernel)
  have count : (submissions ((platformLedger.serve depositCommit).trace confirmingLedger)).length =
      1 := by decide +kernel
  refine ⟨count, fun transfer submitted found => apart ?_⟩
  have ran := run_trace (P := ledgerPorts) confirmingLedger (platformLedger.observe depositIntent 41)
  have split : ∀ answer : LedgerObservation × Option GoError, answer.2 = none →
      answer = (answer.1, none) := by
    rintro ⟨_, _⟩ rfl
    rfl
  rw [split _ succeeds] at ran
  exact (observed_as_posted_iff
    (.coordinator rfl (run_trace (P := ports) confirmingPorts (execute {} depositIntent)) asked) rfl
    (run_trace (P := ledgerPorts) confirmingLedger _) submitted rfl ran).mp found

/-! ## The accounts of a recovered intent -/

section
variable [LedgerLibrary]

section
variable (bindings : AccountBindings)

/-- The account resolver over given bindings at a clock reading, with nothing
failing. -/
def resolverAnswers (now : Time) : (port : LedgerPort) → port.Answer
  | .ctxErr => none
  | .now => now
  | .beginReadOnly => none
  | .bindTenant _ => none
  | .selectBinding tenantID direction asset fiat corridorID =>
    bindings.select tenantID direction asset fiat corridorID
  | .commitReadOnly => none
  | .createTransfers batch => .ok (batch.map fun _ => .created)
  | .lookupTransfers _ => .ok []
  | .projectPostedTransfer _ => none
  | .writeLedgerEvent _ => none

/-- The debit account, the credit account and the currency that a ledger command
for `intent` refers to. -/
def bookedTo (now : Time) (intent : Intent) :
    Except GoError (UInt64 × UInt64 × String) :=
  ((resolveSettlementAccounts intent).value (resolverAnswers bindings now)).map fun accounts =>
    (accounts.debitAccountID, accounts.creditAccountID, intent.fiat)

/-- The columns an intent is booked by. -/
def bindingColumns (intent : Intent) : List String :=
  [intent.tenantID, intent.direction.text, toUpper intent.asset, toUpper intent.fiat,
    trimSpace intent.corridorID]

def bindingOf (intent : Intent) : Option AccountBinding :=
  bindings.rows.find? fun row => row.columns = bindingColumns intent && row.active

end

theorem bookedTo_eq (valid : validateIntent now intent = none) :
    bookedTo bindings now intent = match bindingOf bindings intent with
      | some row => .ok (row.debitAccountID.toUInt64, row.creditAccountID.toUInt64, intent.fiat)
      | none => .error (.new "active tenant settlement account binding is unavailable") := by
  have selected : bindings.select intent.tenantID intent.direction.text (toUpper intent.asset)
      (toUpper intent.fiat) (trimSpace intent.corridorID) = match bindingOf bindings intent with
        | some row => .ok (row.debitAccountID, row.creditAccountID)
        | none => .error .noRows := rfl
  unfold bookedTo resolveSettlementAccounts
  simp only [LedgerPort.call, Bind.bind, Program.bind, Program.ask, Program.value, resolverAnswers,
    valid, selected]
  rcases bindingOf bindings intent with _ | row
  · rfl
  have positive : ¬ (row.debitAccountID ≤ 0 ∨ row.creditAccountID ≤ 0 ∨
      row.debitAccountID = row.creditAccountID) := by
    simp only [not_or, Int64.not_le]
    exact ⟨row.debitOk, row.creditOk, row.accountsOk⟩
  simp only [if_neg positive]
  rfl

omit [LedgerLibrary] in
/-- The intent rebuilt from a saga of a valid intent is valid. -/
theorem validateIntent_recoveryIntent (binds : Binds intent digest record)
    (digestOk : validDigest record.payloadSHA256 = true) (valid : ValidIntent intent) (now : Time) :
    validateIntent now (recoveryIntent record) = none := by
  have rebuilt : recoveryIntent record =
      { id := intent.id, idempotencyKey := intent.idempotencyKey, tenantID := intent.tenantID,
        asset := intent.asset, fiat := intent.fiat, destination := intent.destination,
        direction := intent.direction, amountMinor := intent.amountMinor,
        payloadSHA256 := record.payloadSHA256 } := by
    simp only [recoveryIntent, binds.intentID, binds.idempotencyKey, binds.tenantID, binds.asset,
      binds.fiat, binds.destination, binds.direction, binds.amountMinor]
  rw [rebuilt]
  exact validateIntent_eq_none_iff.mpr ⟨⟨valid.id, valid.idempotencyKey, valid.tenantID, valid.asset,
    valid.fiat, valid.amountMinor, valid.direction, fun _ => digestOk,
    fun present => absurd rfl present⟩, .inl rfl⟩

theorem bindingColumns_recoveryIntent (binds : Binds intent digest record) :
    bindingColumns (recoveryIntent record) =
      [intent.tenantID, intent.direction.text, toUpper intent.asset, toUpper intent.fiat, ""] := by
  simp only [bindingColumns, recoveryIntent, binds.tenantID, binds.direction, binds.asset, binds.fiat]
  rfl

def ownBinding (intent : Intent) (valid : ValidIntent intent) : AccountBinding where
  tenantID := intent.tenantID
  direction := intent.direction.text
  asset := toUpper intent.asset
  fiat := toUpper intent.fiat
  corridorID := trimSpace intent.corridorID
  debitAccountID := 1
  creditAccountID := 2
  directionOk := by rcases valid.direction with onramp | offramp <;> simp [*, Direction.text]
  debitOk := own_debit
  creditOk := own_credit
  accountsOk := own_accounts

/-- The accounts of the intent rebuilt from a saga row are those of the original
intent under every set of bindings exactly if the intent named no corridor. -/
theorem recovered_accounts_agree_iff {config : StoreConfig}
    (reached : postgres.Reaches emptyStore config)
    {row : SagaRow} (present : row ∈ config.shared.db.sagas) {intent : Intent} {digest : String}
    (reserved : Replays
      (callsOf config.shared.accepted row.key) row.record intent digest)
    {accepted : Time} (valid : validateIntent accepted intent = none) :
    (∀ bindings now, bookedTo bindings now (recoveryIntent row.record) =
      bookedTo bindings accepted intent) ↔ trimSpace intent.corridorID = "" := by
  have ok := (guarded_of_reaches reached).wellFormed.sagaOk row present
  have wellFormed := (validateIntent_eq_none_iff.mp valid).1
  have recovered := validateIntent_recoveryIntent reserved.binds (validDigest_of_ok ok) wellFormed
  have columns := bindingColumns_recoveryIntent reserved.binds
  constructor
  · intro agree
    by_contra corridor
    have found : bindingOf ⟨[ownBinding intent wellFormed], by simp⟩ intent =
        some (ownBinding intent wellFormed) := by
      simp [bindingOf, AccountBinding.columns, bindingColumns, ownBinding]
    have missed : bindingOf ⟨[ownBinding intent wellFormed], by simp⟩ (recoveryIntent row.record) =
        none := by
      simp [bindingOf, columns, AccountBinding.columns, ownBinding, corridor]
    have same := agree ⟨[ownBinding intent wellFormed], by simp⟩ accepted
    rw [bookedTo_eq valid, bookedTo_eq (recovered accepted), found, missed] at same
    cases same
  intro unrouted bindings now
  rw [← unrouted] at columns
  have same : bindingOf bindings (recoveryIntent row.record) = bindingOf bindings intent := by
    simp only [bindingOf, columns]
    rfl
  have currency : (recoveryIntent row.record).fiat = intent.fiat := reserved.binds.fiat
  rw [bookedTo_eq valid, bookedTo_eq (recovered now), same, currency]

end

/-! ## Sagas that ended unknown -/

/-- A saga of `intent` that stands at unknown in a reachable state. -/
def EndedUnknown (intent : Intent) (row : SagaRow) : Prop :=
  ∃ config, postgres.Reaches emptyStore config ∧
    row ∈ config.shared.db.sagas ∧ row.record.stage = .unknown ∧
    Replays (callsOf config.shared.accepted row.key) row.record
      intent intent.payloadSHA256

theorem replays_of_first (reached : postgres.Reaches emptyStore config)
    (present : row ∈ config.shared.db.sagas)
    (first : config.shared.accepted.head?.map Prod.snd = some (.reserve intent digest))
    (keyed : row.key = (intent.tenantID, intent.idempotencyKey)) :
    Replays (callsOf config.shared.accepted row.key) row.record
      intent digest := by
  obtain ⟨other, otherDigest, replays⟩ :=
    ((recorded_of_reaches reached).log row present).replays
  have mine : (callsOf config.shared.accepted row.key).head?.map Prod.snd =
      some (.reserve intent digest) := by
    obtain ⟨⟨caller, call⟩, isFirst, rfl⟩ := Option.map_eq_some_iff.mp first
    obtain ⟨rest, split⟩ := List.head?_eq_some_iff.mp isFirst
    rw [split, callsOf,
      List.filter_cons_of_pos (by simp [target, keyed])]
    rfl
  obtain ⟨rfl, rfl⟩ : other = intent ∧ otherDigest = digest := by
    simpa using replays.reserved.symm.trans mine
  exact replays

theorem corridorIntent_endedUnknown : ∃ row, EndedUnknown corridorIntent row := by
  obtain ⟨config, reached, left⟩ := unknownSchedule_reaches
  simp only [leavesUnknown, Bool.and_eq_true, decide_eq_true_eq] at left
  obtain ⟨first, only⟩ := left
  obtain ⟨row, one, values⟩ := List.map_eq_singleton_iff.mp only
  simp only [Prod.mk.injEq] at values
  obtain ⟨keyed, -, unknown⟩ := values
  have present : row ∈ config.shared.db.sagas := by simp [one]
  exact ⟨row, config, reached, present, unknown, replays_of_first reached present first keyed⟩

def corridorBinding : AccountBinding := { depositBinding with corridorID := "ke-ng" }

/-- A deposit over a corridor that ended unknown: its accounts are those of the
corridor's binding, and recovery finds none. -/
theorem corridor_accounts_are_not_recovered :
    let bindings : AccountBindings := { rows := [corridorBinding] }
    validateIntent 1 corridorIntent = none ∧
      @bookedTo asciiLedger bindings 1 corridorIntent = .ok (11, 12, "KES") ∧
      ∃ row, EndedUnknown corridorIntent row ∧
        @bookedTo asciiLedger bindings 1 (recoveryIntent row.record) =
          .error (.new "active tenant settlement account binding is unavailable") := by
  refine ⟨by decide +kernel, by decide +kernel, ?_⟩
  obtain ⟨row, ended⟩ := corridorIntent_endedUnknown
  refine ⟨row, ended, ?_⟩
  obtain ⟨config, -, -, -, replays⟩ := ended
  let _ := asciiLedger
  have digestOk : validDigest row.record.payloadSHA256 = true := by
    rw [replays.binds.payloadSHA256]
    decide +kernel
  have valid : ValidIntent corridorIntent :=
    (validateIntent_eq_none_iff.mp (by decide +kernel : validateIntent 1 corridorIntent = none)).1
  have missed : bindingOf { rows := [corridorBinding] } (recoveryIntent row.record) = none := by
    simp only [bindingOf, bindingColumns_recoveryIntent replays.binds]
    decide
  rw [bookedTo_eq (validateIntent_recoveryIntent replays.binds digestOk valid 1), missed]

/-- The accounts of that deposit depend on what the saga row does not keep. -/
theorem corridor_accounts_disagree :
    ∃ row, EndedUnknown corridorIntent row ∧ ¬ ∀ bindings now,
      @bookedTo asciiLedger bindings now (recoveryIntent row.record) =
        @bookedTo asciiLedger bindings 1 corridorIntent := by
  obtain ⟨row, ended⟩ := corridorIntent_endedUnknown
  refine ⟨row, ended, ?_⟩
  obtain ⟨config, reached, present, -, replays⟩ := ended
  have named : ¬ trimSpace corridorIntent.corridorID = "" := by decide
  exact fun agree => named ((@recovered_accounts_agree_iff asciiLedger _ reached _ present _ _
    replays 1 (by decide +kernel)).mp agree)

end UmojaFlowOS.Settlement
