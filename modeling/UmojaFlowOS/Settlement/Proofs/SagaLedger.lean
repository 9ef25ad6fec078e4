import UmojaFlowOS.Settlement.Service

/-!
# What the saga ledger submits and looks up

For every ledger call, the one transfer it may submit to TigerBeetle, the
identifiers it looks up, and what it reports, whatever the cluster, the database
and the clock answer.
-/

namespace UmojaFlowOS.Settlement

open Go Interaction Ledger PostingService

/-- Transfers are submitted one at a time and are those of `submits`; lookups are
those of `looksUp`. -/
def ledgerGuar (submits : Tb.Transfer → Prop) (looksUp : Tb.Uint128 → Prop) : LedgerPort → Prop
  | .createTransfers batch => ∃ transfer, batch = [transfer] ∧ submits transfer
  | .lookupTransfers id => looksUp id
  | _ => True

abbrev ledgerContract (submits : Tb.Transfer → Prop) (looksUp : Tb.Uint128 → Prop) :
    Contract ledgerPorts Unit where
  rely _ _ := True
  guar _ := ledgerGuar submits looksUp
  observe _ _ := ()

/-- The transfer of an operation of an intent. -/
structure Operation [LedgerLibrary] (intent : Intent) (operation : String) (pendingID : UInt64)
    (flags : Tb.TransferFlags) (transfer : Tb.Transfer) : Prop where
  id : transfer.id = Tb.toUint128 (operationID intent operation)
  pendingID : transfer.pendingID = Tb.toUint128 pendingID
  flags : transfer.transferFlags = flags

def Submits [LedgerLibrary] : LedgerCall → Tb.Transfer → Prop
  | .prepare intent, transfer => Operation intent "pending" 0 { pending := true } transfer
  | .commit intent pending, transfer => ∃ pendingID, ledgerFactID pending = .ok pendingID ∧
      Operation intent "commit" pendingID { postPendingTransfer := true } transfer
  | .void intent pending _, transfer => ∃ pendingID, ledgerFactID pending = .ok pendingID ∧
      Operation intent "void" pendingID { voidPendingTransfer := true } transfer
  | .observe _ _, _ => False

def LooksUp [LedgerLibrary] : LedgerCall → Tb.Uint128 → Prop
  | .observe intent pendingID, id => id = Tb.toUint128 pendingID ∨
      id = Tb.toUint128 (operationID intent "commit") ∨ id = Tb.toUint128 (operationID intent "void")
  | _, _ => False

/-- What a ledger call reports without an error. -/
def Reports : (call : LedgerCall) → call.Answer → Prop
  | .prepare intent, (fact, err) =>
    err = none → fact.transferID = formatUint (operationID intent "pending")
  | .commit intent _, (fact, err) =>
    err = none → fact.transferID = formatUint (operationID intent "commit")
  | .void _ _ _, _ => True
  | .observe _ pendingID, (observation, err) => err = none → observation.pending.id = pendingID

/-! ## One function at a time -/

section
variable [LedgerLibrary] {submits : Tb.Transfer → Prop} {looksUp : Tb.Uint128 → Prop} {α : Type}
  {post : Unit → α → Prop}

omit [LedgerLibrary] in
theorem ledger_call_meets (allowed : ledgerGuar submits looksUp port)
    (next : ∀ answer, Meets (ledgerContract submits looksUp) post () (rest answer)) :
    Meets (ledgerContract submits looksUp) post () (port.call >>= rest) :=
  ⟨allowed, fun answer _ => next answer⟩

theorem createTransfers_meets (c : TigerBeetleClient) (transfer : Transfer)
    (allowed : ∀ sent, Mapped transfer sent → submits sent) :
    Meets (ledgerContract submits looksUp) (fun _ _ => True) () (c.createTransfers [transfer]) := by
  refine ledger_call_meets trivial fun err => ?_
  rcases err with _ | err
  case some => trivial
  dsimp only
  rw [if_neg (List.cons_ne_nil _ _)]
  split
  · trivial
  rw [List.mapM_cons, List.mapM_nil]
  rcases sent : c.mapTransfer transfer with err | sent'
  · trivial
  refine ledger_call_meets ⟨sent', rfl, allowed sent' (mapped_of_mapTransfer sent)⟩ ?_
  rintro (err | results)
  · trivial
  dsimp only
  split
  · trivial
  refine ledger_call_meets trivial fun err => ?_
  cases err <;> trivial

omit [LedgerLibrary] in
theorem projectConfirmedTransfer_meets (sink : Bool) (fact : PostedTransferFact) :
    Meets (ledgerContract submits looksUp) (fun _ _ => True) ()
      (projectConfirmedTransfer sink fact) := by
  unfold projectConfirmedTransfer
  split
  · trivial
  split
  · trivial
  exact ⟨trivial, fun _ _ => trivial⟩

theorem postTransfer_meets (s : PostingService) (request : PostingRequest) (mode : TransferMode)
    (projectFinal : Bool) (allowed : ∀ sent, Mapped (transferOf request mode) sent → submits sent) :
    Meets (ledgerContract submits looksUp)
      (fun _ (answer : Posting) => answer.2 = none → answer.1.transferID = request.transferID) ()
      (s.postTransfer request mode projectFinal) := by
  unfold postTransfer
  split
  · exact nofun
  refine (createTransfers_meets _ _ allowed).bind ?_
  rintro ⟨⟩ (_ | err) -
  case some => exact nofun
  refine ledger_call_meets trivial fun now => ?_
  split
  · exact fun _ => rfl
  refine (projectConfirmedTransfer_meets _ _).bind ?_
  rintro ⟨⟩ (_ | err) -
  case some => exact nofun
  dsimp only
  split
  case isFalse => exact fun _ => rfl
  refine ledger_call_meets trivial fun err => ?_
  cases err with
  | none => exact fun _ => rfl
  | some err => exact nofun

theorem resolveSettlementAccounts_meets (intent : Intent) :
    Meets (ledgerContract submits looksUp) (fun _ _ => True) ()
      (resolveSettlementAccounts intent) := by
  refine ledger_call_meets trivial fun now => ?_
  split
  · trivial
  refine ledger_call_meets trivial fun begun => ?_
  rcases begun with _ | err
  case some => trivial
  refine ledger_call_meets trivial fun bound => ?_
  rcases bound with _ | err
  case some => trivial
  refine ledger_call_meets trivial fun row => ?_
  rcases row with err | ⟨debit, credit⟩
  · dsimp only
    split <;> trivial
  dsimp only
  split
  · trivial
  refine ledger_call_meets trivial fun committed => ?_
  cases committed <;> trivial

theorem postingRequest_meets (l : TigerBeetleSagaLedger) (intent : Intent) (operation : String)
    (pendingID : UInt64) :
    Meets (ledgerContract submits looksUp)
      (fun _ answer => ∀ poster request, answer = .ok (poster, request) →
        request.transferID = operationID intent operation ∧ request.pendingID = pendingID) ()
      (l.postingRequest intent operation pendingID) := by
  refine ledger_call_meets trivial fun now => ?_
  split
  · rintro _ _ ⟨⟩
  split
  · refine (resolveSettlementAccounts_meets intent).bind ?_
    rintro ⟨⟩ (err | accounts) -
    · rintro _ _ ⟨⟩
    dsimp only
    split
    · rintro _ _ ⟨⟩
    · rintro _ _ ⟨⟩
      exact ⟨rfl, rfl⟩
  · rintro _ _ ⟨⟩

theorem lookupTransfer_meets (s : PostingService) (id : UInt64)
    (allowed : looksUp (Tb.toUint128 id)) :
    Meets (ledgerContract submits looksUp) (fun _ _ => True) () (s.lookupTransfer id) := by
  unfold lookupTransfer
  split
  case h_2 => trivial
  split
  · trivial
  unfold TigerBeetleClient.lookupTransfer
  split
  · trivial
  refine ledger_call_meets trivial fun err => ?_
  rcases err with _ | err
  case some => trivial
  refine ledger_call_meets allowed fun records => ?_
  rcases records with err | _ | ⟨record, _ | _⟩
  · trivial
  · trivial
  · dsimp only
    split <;> trivial
  · trivial

end

/-! ## The methods -/

section
variable [LedgerLibrary] {submits : Tb.Transfer → Prop} {looksUp : Tb.Uint128 → Prop} {α : Type}
  {post : Unit → α → Prop} {intent : Intent} {operation : String} {pendingID : UInt64}
  {mode : TransferMode} {projectFinal : Bool}

/-- The flags a mode is sent with. -/
def modeFlags (mode : TransferMode) : Tb.TransferFlags where
  pending := mode = .pending
  postPendingTransfer := mode = .postPending
  voidPendingTransfer := mode = .voidPending

omit [LedgerLibrary] in
theorem modeFlags_normalised (mode : TransferMode) :
    modeFlags (TransferMode.normalised mode) = modeFlags mode := by
  unfold TransferMode.normalised
  split
  · rename_i empty
    rw [empty]
    rfl
  · rfl

theorem flags_of_mode (done : tigerBeetleTransferFlags transfer = .ok flags) :
    flags = modeFlags transfer.mode := by
  rw [← modeFlags_normalised]
  unfold tigerBeetleTransferFlags at done
  dsimp only at done
  split_ifs at done
  all_goals
    cases done
    rw [‹TransferMode.normalised transfer.mode = _›]
    rfl

/-- `PostPendingTransfer`, `CommitPendingTransfer` and `VoidPendingTransfer` refuse
a request or post it in their mode. -/
def PostsIn (mode : TransferMode) (projectFinal : Bool)
    (posting : PostingService → PostingRequest → LedgerCode Posting) : Prop :=
  ∀ poster request, posting poster request = poster.postTransfer request mode projectFinal ∨
    ∃ err, posting poster request = .ret ({}, some err)

theorem postPendingTransfer_postsIn : PostsIn .pending false postPendingTransfer := by
  intro poster request
  unfold postPendingTransfer
  split
  · exact .inr ⟨_, rfl⟩
  · exact .inl rfl

theorem commitPendingTransfer_postsIn :
    PostsIn .postPending true commitPendingTransfer := by
  intro poster request
  unfold commitPendingTransfer
  split
  · exact .inr ⟨_, rfl⟩
  · exact .inl rfl

theorem voidPendingTransfer_postsIn :
    PostsIn .voidPending false voidPendingTransfer := by
  intro poster request
  unfold voidPendingTransfer
  split
  · exact .inr ⟨_, rfl⟩
  · exact .inl rfl

/-- One operation submits one transfer, under its own identifier. -/
theorem operation_meets (postsIn : PostsIn mode projectFinal posting) (l : TigerBeetleSagaLedger)
    (allowed : ∀ sent, Operation intent operation pendingID (modeFlags mode) sent → submits sent)
    (fails : ∀ err, Meets (ledgerContract submits looksUp) post () (rest (.error err)))
    (posts : ∀ poster request, rest (.ok (poster, request)) = (posting poster request >>= continues))
    (reports : ∀ answer : Posting,
      (answer.2 = none → answer.1.transferID = operationID intent operation) →
      Meets (ledgerContract submits looksUp) post () (continues answer)) :
    Meets (ledgerContract submits looksUp) post ()
      (l.postingRequest intent operation pendingID >>= rest) := by
  refine (postingRequest_meets l intent operation pendingID).bind ?_
  rintro ⟨⟩ (err | ⟨poster, request⟩) requested
  · exact fails err
  obtain ⟨named, resolves⟩ := requested poster request rfl
  rw [posts]
  rcases postsIn poster request with posted | ⟨err, refused⟩
  · rw [posted]
    refine (postTransfer_meets poster request mode projectFinal fun sent mapped => allowed sent ?_).bind
      fun _ answer told => reports answer fun done => (told done).trans named
    exact ⟨mapped.id.trans (by rw [← named]; rfl), mapped.pendingID.trans (by rw [← resolves]; rfl),
      flags_of_mode mapped.flags⟩
  · rw [refused]
    exact reports _ nofun

section
variable (l : TigerBeetleSagaLedger)

section
variable (intent : Intent)

theorem prepare_meets :
    Meets (ledgerContract (Submits (.prepare intent)) looksUp)
      (fun _ answer => Reports (.prepare intent) answer) () (l.prepare intent) := by
  refine operation_meets postPendingTransfer_postsIn l (fun _ sent => sent) (fun _ => nofun)
    (fun _ _ => rfl) ?_
  rintro ⟨fact, _ | err⟩ told
  · exact fun _ => congrArg formatUint (told rfl)
  · exact nofun

theorem commit_meets (pending : LedgerFact) :
    Meets (ledgerContract (Submits (.commit intent pending)) looksUp)
      (fun _ answer => Reports (.commit intent pending) answer) () (l.commit intent pending) := by
  unfold TigerBeetleSagaLedger.commit
  split
  · exact nofun
  rename_i pendingID parsed
  refine operation_meets commitPendingTransfer_postsIn l (fun _ sent => ⟨pendingID, parsed, sent⟩)
    (fun _ => nofun) (fun _ _ => rfl) ?_
  rintro ⟨fact, _ | err⟩ told
  · exact fun _ => congrArg formatUint (told rfl)
  · exact nofun

theorem void_meets (pending : LedgerFact) (reason : String) :
    Meets (ledgerContract (Submits (.void intent pending reason)) looksUp) (fun _ _ => True) ()
      (l.void intent pending reason) := by
  unfold TigerBeetleSagaLedger.void
  split
  · trivial
  split
  · trivial
  rename_i pendingID parsed
  refine operation_meets voidPendingTransfer_postsIn l (fun _ sent => ⟨pendingID, parsed, sent⟩)
    (fun _ => trivial) (fun _ _ => rfl) ?_
  rintro ⟨fact, _ | err⟩ - <;> trivial

theorem observe_meets (pendingID : UInt64) :
    Meets (ledgerContract submits (LooksUp (.observe intent pendingID)))
      (fun _ answer => Reports (.observe intent pendingID) answer) () (l.observe intent pendingID) := by
  unfold TigerBeetleSagaLedger.observe
  split
  case h_2 => exact nofun
  split
  · exact nofun
  refine (resolveSettlementAccounts_meets intent).bind ?_
  rintro ⟨⟩ (err | accounts) -
  · exact nofun
  refine (lookupTransfer_meets _ _ (.inl rfl)).bind ?_
  rintro ⟨⟩ ⟨pending, _ | err⟩ -
  case some => exact nofun
  refine (lookupTransfer_meets _ _ (.inr (.inl rfl))).bind ?_
  rintro ⟨⟩ ⟨committed, _ | err⟩ -
  case some => exact nofun
  refine (lookupTransfer_meets _ _ (.inr (.inr rfl))).bind ?_
  rintro ⟨⟩ ⟨voided, _ | err⟩ -
  case some => exact nofun
  unfold TigerBeetleSagaLedger.checkObservation
  dsimp only
  split_ifs with mismatch
  · exact nofun
  · exact nofun
  · exact nofun
  · exact nofun
  simp only [not_or, not_not] at mismatch
  exact fun _ => mismatch.2.1

end

/-- Every ledger call submits, looks up and reports as it may. -/
theorem serve_ledger_meets (call : LedgerCall) :
    Meets (ledgerContract (Submits call) (LooksUp call)) (fun _ answer => Reports call answer) ()
      (l.serve call) := by
  cases call with
  | prepare intent => exact prepare_meets l intent
  | commit intent pending => exact commit_meets l intent pending
  | void intent pending reason => exact void_meets l intent pending reason
  | observe intent pendingID => exact observe_meets l intent pendingID

end

end

/-! ## Runs of the saga ledger -/

def submissions (trace : List (Event ledgerPorts)) : List Tb.Transfer :=
  trace.flatMap fun
    | ⟨.createTransfers batch, _⟩ => batch
    | _ => []

theorem ledger_relied {submits : Tb.Transfer → Prop} {looksUp : Tb.Uint128 → Prop}
    (trace : List (Event ledgerPorts)) : Relied (ledgerContract submits looksUp) () trace := by
  induction trace with
  | nil => trivial
  | cons event trace ih => exact ⟨trivial, ih⟩

theorem ledger_allowed {submits : Tb.Transfer → Prop} {looksUp : Tb.Uint128 → Prop}
    (allowed : Allowed (ledgerContract submits looksUp) () trace) :
    ∀ event ∈ trace, ledgerGuar submits looksUp event.call := by
  induction trace with
  | nil => simp
  | cons event trace ih => exact List.forall_mem_cons.mpr ⟨allowed.1, ih allowed.2⟩

theorem submits_of_run [LedgerLibrary] {l : TigerBeetleSagaLedger} {call : LedgerCall}
    {rest : LedgerCode call.Answer} (ran : Run (l.serve call) trace rest) {transfer : Tb.Transfer}
    (submitted : transfer ∈ submissions trace) : Submits call transfer := by
  obtain ⟨⟨port, answer⟩, asked, inside⟩ := List.mem_flatMap.mp submitted
  have allowed := ledger_allowed ((serve_ledger_meets l call).run ran (ledger_relied trace)).1 _ asked
  cases port with
  | createTransfers batch =>
    obtain ⟨only, rfl, submits⟩ := allowed
    rwa [List.mem_singleton.mp inside]
  | _ => cases inside

end UmojaFlowOS.Settlement
