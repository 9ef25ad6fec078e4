import UmojaFlowOS.Reconciliation.ConsumerSystem
import UmojaFlowOS.Reconciliation.Proofs.ConsumerContract

/-!
# What a consumer asks of the ledger

The contract of a consumer whose postings are served by the posting service: transfers
are created one at a time under the identifier of the event that is handled, and `SETTLED`
is written only after one of them was accepted.
-/

namespace UmojaFlowOS.Reconciliation

open Go Interaction Ledger

/-- The identifier of every transfer of a key. -/
def keyTransferID [LedgerLibrary] (p : SettlementReconciledPayload) : Tb.Uint128 :=
  Tb.toUint128 (deterministicTransferID p.tenantID p.idempotencyKey)

/-! ## Creating one transfer -/

def acceptedAfter (accepted : Option Tb.Transfer) : Event ledgerPorts → Option Tb.Transfer
  | ⟨.createTransfers [transfer], .ok results⟩ =>
    if TigerBeetleClient.rejection 0 results = none then some transfer else accepted
  | _ => accepted

/-- Transfers are created one at a time, under the given identifier. -/
def createGuar (id : Tb.Uint128) : LedgerPort → Prop
  | .createTransfers batch => ∃ transfer, batch = [transfer] ∧ transfer.id = id
  | _ => True

def createContract (id : Tb.Uint128) : Contract ledgerPorts (Option Tb.Transfer) where
  rely _ _ := True
  guar _ := createGuar id
  observe := acceptedAfter

/-- What was accepted has the identifier. -/
def Holds (id : Tb.Uint128) (accepted : Option Tb.Transfer) : Prop :=
  ∃ transfer, accepted = some transfer ∧ transfer.id = id

section
variable [LedgerLibrary] {id : Tb.Uint128} {accepted : Option Tb.Transfer} {α : Type}
  {post : Option Tb.Transfer → α → Prop}

omit [LedgerLibrary] in
theorem meets_askLedger (permitted : createGuar id port)
    (meets : ∀ answer, Meets (createContract id) post (acceptedAfter accepted ⟨port, answer⟩)
      (rest answer)) : Meets (createContract id) post accepted (port.call >>= rest) :=
  ⟨permitted, fun answer _ => meets answer⟩

/-- How the code ends: nothing that was accepted is forgotten, and without an error
something was accepted. -/
abbrev CreateEnds (id : Tb.Uint128) (before later : Option Tb.Transfer) (err : Option GoError) :
    Prop :=
  (Holds id before → Holds id later) ∧ (err = none → Holds id later)

omit [LedgerLibrary] in
theorem createEnds_of_err :
    CreateEnds id before before (some err) :=
  ⟨fun held => held, nofun⟩

theorem createTransfers_meets (c : TigerBeetleClient) (transfer : Transfer)
    (same : Tb.toUint128 transfer.id = id) :
    Meets (createContract id) (fun later err => CreateEnds id accepted later err) accepted
      (c.createTransfers [transfer]) := by
  refine meets_askLedger trivial fun err => ?_
  rcases err with _ | err
  case some => exact createEnds_of_err
  dsimp only
  rw [if_neg (List.cons_ne_nil _ _)]
  split
  · exact createEnds_of_err
  rw [List.mapM_cons, List.mapM_nil]
  rcases mapped : c.mapTransfer transfer with err | sent
  · exact createEnds_of_err
  have sentID : sent.id = id := (mapped_of_mapTransfer mapped).id.trans same
  refine meets_askLedger ⟨sent, rfl, sentID⟩ fun answer => ?_
  rcases answer with err | results
  · exact createEnds_of_err
  dsimp only [acceptedAfter]
  rcases refused : TigerBeetleClient.rejection 0 results with _ | err
  case some =>
    rw [if_neg nofun]
    exact createEnds_of_err
  rw [if_pos rfl]
  refine meets_askLedger trivial fun err => ?_
  have held : Holds id (some sent) := ⟨sent, rfl, sentID⟩
  cases err with
  | some err => exact ⟨fun _ => held, nofun⟩
  | none => exact ⟨fun _ => held, fun _ => held⟩

omit [LedgerLibrary] in
theorem projectConfirmedTransfer_meets (sink : Bool) (fact : PostedTransferFact) :
    Meets (createContract id) (fun later _ => later = accepted) accepted
      (projectConfirmedTransfer sink fact) := by
  unfold projectConfirmedTransfer
  split
  · exact rfl
  split
  · exact rfl
  exact ⟨trivial, fun _ _ => rfl⟩

theorem postConfirmedTransfer_meets (s : PostingService) (request : PostingRequest)
    (same : Tb.toUint128 request.transferID = id) :
    Meets (createContract id) (fun later answer => CreateEnds id accepted later answer.2) accepted
      (s.postConfirmedTransfer request) := by
  unfold PostingService.postConfirmedTransfer PostingService.postTransfer
  split
  · exact createEnds_of_err
  refine Meets.bind (createTransfers_meets _ _ same) fun later err ends => ?_
  rcases err with _ | err
  case some => exact ⟨ends.1, nofun⟩
  have held := ends.2 rfl
  refine meets_askLedger trivial fun now => ?_
  rw [if_neg (not_not.mpr rfl)]
  refine Meets.bind (projectConfirmedTransfer_meets _ _) fun after err kept => ?_
  subst kept
  rcases err with _ | err
  case some => exact ⟨fun _ => held, nofun⟩
  dsimp only
  split
  · refine meets_askLedger trivial fun err => ?_
    cases err with
    | some err => exact ⟨fun _ => held, nofun⟩
    | none => exact ⟨fun _ => held, fun _ => held⟩
  · exact ⟨fun _ => held, fun _ => held⟩

end

/-! ## The system's contract -/

/-- What a consumer of the system has seen, with the transfers accepted since the event was
reserved. -/
structure SystemSeen where
  seen : EventSeen := {}
  accepted : Option Tb.Transfer := none

section
variable (low : SystemSeen)

def SystemSeen.after : Event systemCalls → SystemSeen
  | ⟨.plain (.insertInbox p eventID now), answer⟩ =>
    { seen := low.seen.after ⟨.insertInbox p eventID now, answer⟩ }
  | ⟨.plain call, answer⟩ => { low with seen := low.seen.after ⟨call, answer⟩ }
  | ⟨.ledger port, answer⟩ => { low with accepted := acceptedAfter low.accepted ⟨port, answer⟩ }

def systemSeenIn (past : List (Event systemCalls)) : SystemSeen := past.foldl SystemSeen.after {}

def SystemSeen.event : Option SettlementReconciledPayload :=
  low.seen.known.event

/-- A transfer of the event's key was accepted. -/
def SystemSeen.Accepts [LedgerLibrary] : Prop :=
  ∃ p, low.event = some p ∧ Holds (keyTransferID p) low.accepted

def systemGuar [LedgerLibrary] : SystemCall → Prop
  | .plain call => low.seen.phase.permits call ∧ low.seen.known.permits call ∧
      (call.settles = true → low.Accepts)
  | .ledger port => ∃ p, low.event = some p ∧ createGuar (keyTransferID p) port

end

def systemContract [LedgerLibrary] : Contract systemCalls SystemSeen where
  rely _ _ := True
  guar low := systemGuar low
  observe := SystemSeen.after

/-- The two summaries of one consumer. -/
structure Related [LedgerLibrary] (seen : EventSeen) (low : SystemSeen) : Prop where
  phase : low.seen.phase = seen.phase
  known : low.seen.known = { seen.known with posted := false }
  posted : seen.known.posted = true → low.Accepts

section
variable [LedgerLibrary] {seen : EventSeen} {low : SystemSeen}

theorem Related.event (related : Related seen low) : low.event = seen.known.event := by
  rw [SystemSeen.event, related.known]

theorem Related.permits (related : Related seen low)
    (permitted : seen.known.permits call) : low.seen.known.permits call := by
  rw [related.known]
  cases call <;> exact permitted

theorem Related.plain (related : Related seen low) (answer : call.Answer)
    (other : ∀ request, call ≠ .post request) :
    Related (seen.after ⟨call, answer⟩) (low.after ⟨.plain call, answer⟩) := by
  obtain ⟨⟨phase, known⟩, accepted⟩ := low
  obtain ⟨rfl, rfl, posted⟩ := related
  cases call with
  | post request => exact absurd rfl (other request)
  | insertInbox p eventID now => exact ⟨rfl, rfl, nofun⟩
  | selectIntent tenantID key =>
    cases answer with
    | error | ok => exact ⟨rfl, rfl, posted⟩
  | _ => exact ⟨rfl, rfl, posted⟩

end

section
variable [LedgerLibrary]

theorem serveCall_eq (other : ∀ request, call ≠ .post request) :
    serveCall service call = Program.ask (P := systemCalls) (.plain call) := by
  cases call with
  | post request => exact absurd rfl (other request)
  | _ => rfl

theorem post_meets (handled : low.event = some p) :
    Meets systemContract
      (fun later answer => later.seen = low.seen ∧
        CreateEnds (keyTransferID p) low.accepted later.accepted answer.2)
      low (serveCall service (.post (postingOf p))) := by
  let below (accepted : Option Tb.Transfer) (later : SystemSeen) : Prop :=
    later = { low with accepted := accepted }
  have code : Meets (createContract (keyTransferID p))
      (fun later answer => CreateEnds (keyTransferID p) low.accepted later answer.2) low.accepted
      (service.postConfirmedTransfer (postingOf p)) :=
    postConfirmedTransfer_meets service (postingOf p) rfl
  have serves : ∀ port accepted later, below accepted later →
      (createContract (keyTransferID p)).guar accepted port →
      Meets systemContract (fun later answer => True ∧
        below (acceptedAfter accepted ⟨port, answer⟩) later) later
        (Program.ask (P := systemCalls) (.ledger port)) := by
    rintro port accepted _ rfl permitted
    exact ⟨⟨p, handled, permitted⟩, fun answer _ => ⟨trivial, rfl⟩⟩
  refine (Meets.link_related serves code rfl).mono ?_
  rintro _ answer ⟨accepted, rfl, ends⟩
  exact ⟨rfl, ends⟩

/-- Each call of a consumer, served by the database or the posting service. -/
theorem serveCall_meets (call : ConsumerCall) (seen : EventSeen) (low : SystemSeen)
    (related : Related seen low) (permitted : consumerContract.guar seen call) :
    Meets systemContract
      (fun low answer => consumerContract.rely seen ⟨call, answer⟩ ∧
        Related (consumerContract.observe seen ⟨call, answer⟩) low)
      low (serveCall service call) := by
  by_cases posts : ∃ request, call = .post request
  · obtain ⟨request, rfl⟩ := posts
    obtain ⟨-, ⟨p, rfl, open_⟩, -⟩ := permitted
    have handled : low.event = some p := related.event.trans open_.1
    refine (post_meets handled).mono fun later (fact, err) ends => ⟨trivial, ?_⟩
    obtain ⟨same, kept, posted⟩ := ends
    have event : later.event = some p := by rw [SystemSeen.event, same]; exact handled
    have accepts : Holds (keyTransferID p) later.accepted → later.Accepts := fun held =>
      ⟨p, event, held⟩
    have before : low.Accepts → Holds (keyTransferID p) low.accepted := by
      rintro ⟨other, found, held⟩
      rw [handled] at found
      cases found
      exact held
    cases err with
    | none => exact ⟨same ▸ related.phase, same ▸ related.known, fun _ => accepts (posted rfl)⟩
    | some err =>
      exact ⟨same ▸ related.phase, same ▸ related.known,
        fun earlier => accepts (kept (before (related.posted earlier)))⟩
  have other : ∀ request, call ≠ .post request := fun request same => posts ⟨request, same⟩
  rw [serveCall_eq other]
  refine ⟨⟨?_, related.permits permitted.2.1, fun settles => related.posted (permitted.2.2 settles)⟩,
    fun answer _ => ⟨trivial, related.plain answer other⟩⟩
  rw [related.phase]
  exact permitted.1

theorem consume_link_meets (d : Decoders) (c : Consumer) (rounds : Nat) :
    Meets systemContract (fun _ _ => True) {} ((consume d c rounds).link (serveCall service)) := by
  have meets : Meets consumerContract (fun _ _ => True) {} (consume d c rounds) :=
    consume_meets d c rounds
  exact (Meets.link_related serveCall_meets meets ⟨rfl, rfl, nofun⟩).mono fun _ _ _ => trivial

variable {inferred : Relational.IntType}

theorem consumer_of_reaches (reached : (consumers d service inferred).Reaches ⟨start, []⟩ config)
    (present : thread ∈ config.threads) :
    Allowed systemContract {} thread.past ∧
      Meets systemContract (fun _ _ => True) (systemSeenIn thread.past) thread.rest := by
  obtain ⟨shared, program, started, ran⟩ := reached.run_of_thread rfl present
  cases started
  exact Meets.run ran (consume_link_meets d _ _) (relied_of_true thread.past)

end

end UmojaFlowOS.Reconciliation
