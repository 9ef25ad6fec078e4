import UmojaFlowOS.Reconciliation.KafkaConsumer

/-!
# What a reconciliation consumer asks

A contract that every consumer keeps, whatever it is answered: the order of the
statements in its transactions, which event and which intent each of them is about, and
that only an event of a loaded, bound and open intent is posted.
-/

namespace UmojaFlowOS.Reconciliation

open Go Interaction Ledger

/-! ## What a consumer has seen -/

inductive TxPhase where
  | outside
  | begun
  | reading
  | updated (p : SettlementReconciledPayload) (status : IntentStatus) (transferID : UInt64)
      (providerRef : String) (now : Int)
  | decided (p : SettlementReconciledPayload) (status : IntentStatus)

def TxPhase.after (phase : TxPhase) : Event consumerCalls → TxPhase
  | ⟨.beginTx _, none⟩ => begun
  | ⟨.insertInbox _ _ _, none⟩ => reading
  | ⟨.selectReserved _ _, .ok _⟩ => reading
  | ⟨.selectIntent _ _, .ok _⟩ => reading
  | ⟨.updateInbox _ _ _, .ok _⟩ => reading
  | ⟨.updateIntent p status transferID providerRef now, none⟩ =>
    updated p status transferID providerRef now
  | ⟨.insertDecision p status _ _ _, none⟩ => decided p status
  | ⟨.post _, _⟩ => phase
  | _ => outside

/-- What a consumer knows of the event it handles. -/
structure Known where
  event : Option SettlementReconciledPayload := none
  intent : Option IntentRecord := none
  posted : Bool := false

def Known.after (known : Known) : Event consumerCalls → Known
  | ⟨.insertInbox p _ _, _⟩ => { event := some p }
  | ⟨.selectIntent _ _, .ok intent⟩ => { known with intent := some intent }
  | ⟨.post _, (_, none)⟩ => { known with posted := true }
  | _ => known

structure EventSeen where
  phase : TxPhase := .outside
  known : Known := {}

def EventSeen.after (seen : EventSeen) (event : Event consumerCalls) : EventSeen :=
  ⟨seen.phase.after event, seen.known.after event⟩

def eventSeenIn (past : List (Event consumerCalls)) : EventSeen := past.foldl EventSeen.after {}

/-! ## The contract -/

/-- Which statement may come when. -/
def TxPhase.permits (phase : TxPhase) : ConsumerCall → Prop
  | .insertInbox _ _ _ => phase = .begun
  | .selectReserved _ _ => phase = .reading
  | .selectIntent _ _ => phase = .begun
  | .updateIntent _ _ _ _ _ => phase = .begun
  | .insertDecision p status transferID providerRef now =>
    phase = .updated p status transferID providerRef now
  | .updateInbox _ _ _ => phase = .begun
  | .commit => phase = .reading ∨ ∃ p status, phase = .decided p status
  | _ => True

def Known.Settleable (known : Known) (p : SettlementReconciledPayload) : Prop :=
  known.event = some p ∧
    ∃ intent, known.intent = some intent ∧ intent.boundTo p = true ∧ intent.status.terminal = false

/-- Which event and intent a call is about. -/
def Known.permits (known : Known) : ConsumerCall → Prop
  | .selectIntent tenantID key =>
    ∃ p, known.event = some p ∧ tenantID = p.tenantID ∧ key = p.idempotencyKey
  | .updateIntent p status transferID _ _ => known.event = some p ∧
      (status = .unknown ∨
        status = .settled ∧ transferID = (postingOf p).transferID ∧ known.Settleable p)
  | .post request => ∃ p, request = postingOf p ∧ known.Settleable p
  | _ => True

/-- The call writes `SETTLED` for an intent. -/
def ConsumerCall.settles : ConsumerCall → Bool
  | updateIntent _ status _ _ _ => status = .settled
  | _ => false

def consumerContract : Contract consumerCalls EventSeen where
  rely _ _ := True
  guar seen call := seen.phase.permits call ∧ seen.known.permits call ∧
    (call.settles = true → seen.known.posted = true)
  observe := EventSeen.after

/-! ## One function at a time -/

section

attribute [local irreducible] trimSpace IntentRecord.boundTo

variable {seen : EventSeen} {α : Type} {post : EventSeen → α → Prop}

theorem meets_askConsumer (phase : seen.phase.permits call) (permitted : seen.known.permits call)
    (settled : call.settles = true → seen.known.posted = true)
    (meets : ∀ answer, Meets consumerContract post (seen.after ⟨call, answer⟩) (rest answer)) :
    Meets consumerContract post seen (call.ask >>= rest) :=
  ⟨⟨phase, permitted, settled⟩, fun answer _ => meets answer⟩

theorem meets_askQuiet (quiet : call.settles = false) (phase : seen.phase.permits call)
    (permitted : seen.known.permits call)
    (meets : ∀ answer, Meets consumerContract post (seen.after ⟨call, answer⟩) (rest answer)) :
    Meets consumerContract post seen (call.ask >>= rest) :=
  meets_askConsumer phase permitted
    (fun settles => absurd (quiet.symm.trans settles) Bool.false_ne_true) meets

/-- A transaction: what its body ends with has to outlast the rollback. -/
theorem storeTx_meets (early : ∀ later err, later.known = seen.known → post later (failed err))
    (closed : ∀ later result, post later result → post (later.after ⟨.rollback, ()⟩) result)
    (meets : Meets consumerContract post ⟨.begun, seen.known⟩ body) :
    Meets consumerContract post seen (storeTx tenantID failed body) := by
  unfold storeTx
  by_cases blank : trimSpace tenantID = ""
  · rw [if_pos blank]
    exact early seen _ rfl
  rw [if_neg blank]
  refine meets_askQuiet rfl trivial trivial fun err => ?_
  cases err with
  | some err => exact early _ err rfl
  | none =>
    refine Meets.bind meets fun later result kept => ?_
    exact meets_askQuiet rfl trivial trivial fun _ => closed later result kept

theorem commit_meets (ready : phase = .reading ∨ ∃ p status, phase = .decided p status) :
    Meets consumerContract (fun later _ => later.known = known) ⟨phase, known⟩
      ConsumerCall.commit.ask :=
  ⟨⟨ready, trivial, nofun⟩, fun _ _ => rfl⟩

theorem reserveEvent_meets (p : SettlementReconciledPayload) (eventID : String) (now : Int) :
    Meets consumerContract
      (fun later result => ∀ inserted, result = .ok inserted → later.known = { event := some p })
      seen (reserveEvent p eventID now) := by
  refine storeTx_meets (fun _ _ _ _ => nofun) (fun _ _ kept => kept) ?_
  refine meets_askQuiet rfl rfl trivial fun err => ?_
  rcases err with _ | err
  case some => exact fun _ => nofun
  refine meets_askQuiet rfl rfl trivial fun reserved => ?_
  rcases reserved with err | inserted
  · exact fun _ => nofun
  refine meets_askQuiet rfl (.inl rfl) trivial fun err => ?_
  cases err with
  | some err => exact fun _ => nofun
  | none => exact fun _ _ => rfl

variable {p : SettlementReconciledPayload}

theorem loadIntent_meets (handled : seen.known.event = some p) :
    Meets consumerContract
      (fun later result => later.known.event = some p ∧
        ∀ intent, result = .ok intent → later.known.intent = some intent)
      seen (loadIntent p.tenantID p.idempotencyKey) := by
  refine storeTx_meets (fun later _ same => ⟨by rw [same, handled], fun _ => nofun⟩)
    (fun _ _ kept => kept) ?_
  refine meets_askQuiet rfl rfl ⟨p, handled, rfl, rfl⟩ fun answer => ?_
  rcases answer with err | intent
  · exact ⟨handled, fun _ => nofun⟩
  refine meets_askQuiet rfl (.inl rfl) trivial fun err => ?_
  rcases err with _ | err
  case some => exact ⟨handled, fun _ => nofun⟩
  refine ⟨handled, fun found same => ?_⟩
  cases same
  rfl

theorem updateIntent_meets
    (permitted : seen.known.permits (.updateIntent p status transferID providerRef now))
    (settled : status = .settled → seen.known.posted = true) :
    Meets consumerContract (fun later _ => later.known = seen.known) seen
      (updateIntent p status transferID providerRef now) := by
  refine storeTx_meets (fun _ _ same => same) (fun _ _ kept => kept) ?_
  refine meets_askConsumer rfl permitted (fun settles => settled (of_decide_eq_true settles))
    fun err => ?_
  rcases err with _ | err
  case some => exact rfl
  refine meets_askQuiet rfl rfl trivial fun err => ?_
  cases err with
  | some err => exact rfl
  | none => exact commit_meets (.inr ⟨p, status, rfl⟩)

theorem markUnknown_meets (reason : String) (now : Int) (handled : seen.known.event = some p) :
    Meets consumerContract (fun later _ => later.known = seen.known) seen
      (markUnknown p reason now) :=
  updateIntent_meets ⟨handled, .inl rfl⟩ nofun

theorem markEventProcessed_meets (eventID tenantID : String) (now : Int) :
    Meets consumerContract (fun later _ => later.known = seen.known) seen
      (markEventProcessed eventID tenantID now) := by
  refine storeTx_meets (fun _ _ same => same) (fun _ _ kept => kept) ?_
  refine meets_askQuiet rfl rfl trivial fun answer => ?_
  rcases answer with err | affected
  · exact rfl
  dsimp only
  split
  · exact rfl
  · exact commit_meets (.inl rfl)

theorem markUnknown_then_meets (handled : seen.known.event = some p)
    (meets : ∀ later err, Meets consumerContract (fun _ _ => True) later (rest err)) :
    Meets consumerContract (fun _ _ => True) seen (markUnknown p reason now >>= rest) :=
  (markUnknown_meets reason now handled).bind fun later err _ => meets later err

theorem markEventProcessed_free (eventID tenantID : String) (now : Int) :
    Meets consumerContract (fun _ _ => True) seen (markEventProcessed eventID tenantID now) :=
  (markEventProcessed_meets eventID tenantID now).mono fun _ _ _ => trivial

/-- The attempts, by induction on those that are left. -/
theorem evaluateFrom_meets (input : IntentPolicyInput) (attempt retries : Nat) :
    Meets consumerContract (fun later _ => later.known = seen.known) seen
      (evaluateFrom input attempt retries) := by
  induction retries generalizing seen attempt with
  | zero =>
    rw [evaluateFrom]
    refine meets_askQuiet rfl trivial trivial fun err => ?_
    rcases err with _ | err
    case some => exact rfl
    refine meets_askQuiet rfl trivial trivial fun answer => ?_
    rcases err : answer.err with _ | err
    · exact rfl
    dsimp only
    split
    · exact rfl
    · exact rfl
  | succ retries ih =>
    rw [evaluateFrom]
    refine meets_askQuiet rfl trivial trivial fun err => ?_
    rcases err with _ | err
    case some => exact rfl
    refine meets_askQuiet rfl trivial trivial fun answer => ?_
    rcases err : answer.err with _ | err
    · exact rfl
    dsimp only
    split
    · exact rfl
    refine meets_askQuiet rfl trivial trivial fun err => ?_
    cases err with
    | some err => exact rfl
    | none => exact (ih (attempt + 1)).mono fun _ _ same => same

theorem evaluateOPAWithRetry_meets (c : Consumer) (input : IntentPolicyInput) :
    Meets consumerContract (fun later _ => later.known = seen.known) seen
      (evaluateOPAWithRetry c input) := by
  unfold evaluateOPAWithRetry
  split
  · exact rfl
  · exact evaluateFrom_meets input 1 2

theorem settleIntent_meets (eventID : String) (now : Int) (open_ : seen.known.Settleable p) :
    Meets consumerContract (fun _ _ => True) seen (settleIntent p eventID now) := by
  refine meets_askQuiet rfl trivial ⟨p, rfl, open_⟩ fun (fact, err) => ?_
  rcases err with _ | err
  case some =>
    refine markUnknown_then_meets open_.1 fun later err => ?_
    cases err <;> trivial
  refine Meets.bind (updateIntent_meets ⟨open_.1, .inr ⟨rfl, rfl, open_⟩⟩ fun _ => rfl)
    fun later err _ => ?_
  cases err with
  | some err => trivial
  | none => exact markEventProcessed_free eventID p.tenantID now

section
variable [LedgerLibrary]

/-- Posting and settling come after the checks on the loaded intent. -/
theorem reconcileIntent_meets (c : Consumer) (eventID : String) (now : Int)
    (handled : seen.known.event = some p) (loaded : seen.known.intent = some intent) :
    Meets consumerContract (fun _ _ => True) seen (reconcileIntent c p eventID now intent) := by
  unfold reconcileIntent
  split
  · refine markUnknown_then_meets handled fun later err => ?_
    cases err <;> trivial
  rename_i bound
  split
  · exact markEventProcessed_free eventID p.tenantID now
  rename_i open_
  split
  · refine markUnknown_then_meets handled fun later err => ?_
    cases err with
    | some err => trivial
    | none => exact markEventProcessed_free eventID p.tenantID now
  refine Meets.bind (evaluateOPAWithRetry_meets c (policyInput p)) fun later (decision, err) same => ?_
  have handled : later.known.event = some p := by rw [same, handled]
  rcases err with _ | err
  case some =>
    refine markUnknown_then_meets handled fun later err => ?_
    cases err <;> trivial
  dsimp only
  split
  · refine markUnknown_then_meets handled fun later err => ?_
    cases err with
    | some err => trivial
    | none => exact markEventProcessed_free eventID p.tenantID now
  refine settleIntent_meets eventID now ⟨handled, intent, by rw [same, loaded], ?_, ?_⟩
  · exact not_not.mp bound
  · exact Bool.not_eq_true _ ▸ open_

theorem handleEvent_meets (c : Consumer) (eventID : String) (p : SettlementReconciledPayload) :
    Meets consumerContract (fun _ _ => True) seen (handleEvent c eventID p) := by
  refine meets_askQuiet rfl trivial trivial fun now => ?_
  refine Meets.bind (reserveEvent_meets p eventID now) fun later result reserved => ?_
  rcases result with err | inserted
  · trivial
  cases inserted with
  | false => trivial
  | true =>
    have handled : later.known.event = some p := by rw [reserved true rfl]
    refine Meets.bind (loadIntent_meets handled) fun later result loaded => ?_
    cases result with
    | error err => trivial
    | ok intent => exact reconcileIntent_meets c eventID now loaded.1 (loaded.2 intent rfl)

section
variable (d : Decoders) (c : Consumer)
include d c

theorem handleRecord_meets (record : Option KafkaRecord) :
    Meets consumerContract (fun _ _ => True) seen (handleRecord d c record) := by
  unfold handleRecord
  split
  · trivial
  · exact handleEvent_meets c _ _

theorem handleEach_meets (records : List KafkaRecord) :
    Meets consumerContract (fun _ _ => True) seen (handleEach d c records) := by
  induction records generalizing seen with
  | nil => trivial
  | cons record records ih =>
    rw [handleEach]
    refine Meets.bind (handleRecord_meets d c (some record)) fun later err _ => ?_
    rcases err with _ | err
    case some => trivial
    refine meets_askQuiet rfl trivial trivial fun err => ?_
    cases err with
    | some err => trivial
    | none => exact ih

theorem consumeRounds_meets (rounds : Nat) :
    Meets consumerContract (fun _ _ => True) seen (consumeRounds d c rounds) := by
  induction rounds generalizing seen with
  | zero => trivial
  | succ rounds ih =>
    rw [consumeRounds]
    refine meets_askQuiet rfl trivial trivial fun fetched => ?_
    rcases fetched with errs | records
    · trivial
    refine meets_askQuiet rfl trivial trivial fun err => ?_
    rcases err with _ | err
    case some => trivial
    refine Meets.bind (handleEach_meets d c _) fun later err _ => ?_
    cases err with
    | some err => trivial
    | none => exact ih

theorem consume_meets (rounds : Nat) :
    Meets consumerContract (fun _ _ => True) seen (consume d c rounds) := by
  unfold consume
  split
  · trivial
  · exact consumeRounds_meets d c rounds

end

end

end

end UmojaFlowOS.Reconciliation
