import UmojaFlowOS.Fencing.FenceStore

/-!
# What the replicas ask

A contract that every call keeps, whatever it is answered: the order of the statements in
the two kinds of transactions, what is known to be recorded when a command is taken over,
and that TigerBeetle is asked only under an admission and in a context just found in order.
-/

namespace UmojaFlowOS.Fencing

open Go Interaction Ledger

/-! ## What a caller has seen -/

inductive FencePhase where
  | outside
  | begun
  | locked (environment : String)
  | repeated
  | inserted (row : CommandRow)
  | written (row : CommandRow)
  | admitted (environment : String) (row : StateRow)

def FencePhase.after (phase : FencePhase) : Event fenceCalls → FencePhase
  | ⟨.beginTx, none⟩ => begun
  | ⟨.beginTx, some _⟩ => outside
  | ⟨.advisoryLock environment, none⟩ =>
    match phase with
    | begun => locked environment
    | _ => outside
  | ⟨.advisoryLock _, some _⟩ => outside
  | ⟨.insertCommand c, .ok version⟩ => inserted (CommandRow.of c version)
  | ⟨.insertCommand _, .error .noRows⟩ => repeated
  | ⟨.insertCommand _, .error _⟩ => outside
  | ⟨.selectCommand _, .ok _⟩ => phase
  | ⟨.selectCommand _, .error _⟩ => outside
  | ⟨.upsertState _, none⟩ =>
    match phase with
    | inserted row => written row
    | _ => outside
  | ⟨.upsertState _, some _⟩ => outside
  | ⟨.selectState environment, .ok row⟩ =>
    if row.fenced ∨ row.fenceVersion = 0 then outside else admitted environment row
  | ⟨.selectState _, .error _⟩ => outside
  | ⟨.commit, _⟩ => outside
  | ⟨.rollback, _⟩ => outside
  | _ => phase

/-- What a transaction writes at its commit. -/
def FencePhase.commands : FencePhase → List CommandRow
  | inserted row => [row]
  | written row => [row]
  | _ => []

def FencePhase.states : FencePhase → List StateRow
  | written row => [row.state]
  | _ => []

/-- What an answer tells of recorded commands, by the id they were asked for. -/
def FencePhase.learns (phase : FencePhase) : Event fenceCalls → List (String × CommandRow)
  | ⟨.selectCommand commandID, .ok row⟩ => [(commandID, row)]
  | ⟨.commit, none⟩ => phase.commands.map fun row => (row.commandID, row)
  | _ => []

/-- What a caller knows: the transaction, the commands it found recorded, and the last
answer it was given. -/
structure FenceSeen where
  phase : FencePhase := .outside
  recorded : List (String × CommandRow) := []
  last : Option (Event fenceCalls) := none

def FenceSeen.after (seen : FenceSeen) (event : Event fenceCalls) : FenceSeen where
  phase := seen.phase.after event
  recorded := seen.phase.learns event ++ seen.recorded
  last := some event

def fenceSeenIn (past : List (Event fenceCalls)) : FenceSeen := past.foldl FenceSeen.after {}

theorem fenceSeenIn_concat (past : List (Event fenceCalls)) (event : Event fenceCalls) :
    fenceSeenIn (past ++ [event]) = (fenceSeenIn past).after event := by
  rw [fenceSeenIn, List.foldl_append]
  rfl

/-- The context was just found in order. -/
def clears : Event fenceCalls → Bool
  | ⟨.ledger .ctxErr, none⟩ => true
  | _ => false

/-- A command with this content is recorded. -/
def FenceSeen.knows (seen : FenceSeen) (c : FenceCommand) : Prop :=
  ∃ row, (c.commandID, row) ∈ seen.recorded ∧ row.commandHash = commandHash c ∧
    row.action = c.action ∧ row.environment = c.environment

/-! ## The contract -/

def FenceTask.command : FenceTask → Option FenceCommand
  | record c => some c
  | apply c _ => some c
  | _ => none

def FenceSeen.permits (f : SettlementFence) (task : FenceTask) (seen : FenceSeen) :
    FenceCall → Prop
  | .insertCommand c => seen.phase = .locked c.environment ∧ task.command = some c
  | .upsertState row => ∃ command, seen.phase = .inserted command ∧ row = command.state
  | .selectState _ => seen.phase = .begun
  | .commit => seen.phase ≠ .outside ∧ seen.phase.commands.map CommandRow.state = seen.phase.states
  | .applyLocal replica c => replica = f.replica ∧
      (f.durable = true → seen.knows c ∧ c.environment = f.environment)
  | .ledger (.createTransfers _) => f.durable = true → seen.last.any clears = true ∧
      ∃ row, seen.phase = .admitted f.environment row
  | _ => True

def fenceContract (f : SettlementFence) (task : FenceTask) : Contract fenceCalls FenceSeen where
  rely _ _ := True
  guar := FenceSeen.permits f task
  observe := FenceSeen.after

section
variable {f : SettlementFence} {task : FenceTask} {seen : FenceSeen} {α : Type}
  {post : FenceSeen → α → Prop}

theorem meets_askFence (permitted : seen.permits f task call)
    (meets : ∀ answer, Meets (fenceContract f task) post (seen.after ⟨call, answer⟩) (rest answer)) :
    Meets (fenceContract f task) post seen (call.ask >>= rest) :=
  ⟨permitted, fun answer _ => meets answer⟩

/-- Success means that the command is recorded. -/
abbrev RecordEnds (c : FenceCommand) (later : FenceSeen) (err : Option GoError) : Prop :=
  err = none → later.knows c

variable {c : FenceCommand}

theorem commitCommand_meets
    (whole : seen.phase ≠ .outside ∧ seen.phase.commands.map CommandRow.state = seen.phase.states)
    (known : (seen.after ⟨.commit, none⟩).knows c) :
    Meets (fenceContract f task) (RecordEnds c) seen commitCommand := by
  refine meets_askFence whole fun err => ?_
  cases err with
  | some err => exact nofun
  | none => exact fun _ => known

/-- The transaction that records a command. -/
theorem recordTx_meets (begun : seen.phase = .begun) (about : task.command = some c) :
    Meets (fenceContract f task) (RecordEnds c) seen (recordTx c) := by
  refine meets_askFence trivial fun err => ?_
  rcases err with _ | err
  case some => exact nofun
  have locked : (seen.after ⟨.advisoryLock c.environment, none⟩).phase = .locked c.environment := by
    dsimp only [FenceSeen.after, FencePhase.after]
    rw [begun]
  refine meets_askFence ⟨locked, about⟩ fun answer => ?_
  split
  · refine meets_askFence trivial fun answer => ?_
    rcases answer with err | existing
    · exact nofun
    dsimp only
    split
    · exact nofun
    rename_i same
    simp only [not_or, not_not] at same
    exact commitCommand_meets ⟨nofun, rfl⟩
      ⟨existing, List.mem_cons_self .., same.1, same.2.1, same.2.2⟩
  · exact nofun
  rename_i version
  refine meets_askFence ⟨_, rfl, rfl⟩ fun err => ?_
  cases err with
  | some err => exact nofun
  | none => exact commitCommand_meets ⟨nofun, rfl⟩ ⟨_, List.mem_cons_self .., rfl, rfl, rfl⟩

theorem recordFenceCommandContext_meets (about : task.command = some c) :
    Meets (fenceContract f task) (RecordEnds c) seen (recordFenceCommandContext c) := by
  unfold recordFenceCommandContext
  split
  · exact nofun
  split
  · exact nofun
  refine meets_askFence trivial fun err => ?_
  cases err with
  | some err => exact nofun
  | none =>
    refine Meets.bind (recordTx_meets rfl about) fun later result ends => ?_
    exact meets_askFence trivial fun _ => ends

theorem loadState_meets (environment : String) :
    Meets (fenceContract f task) (fun _ _ => True) seen (loadState environment) := by
  unfold loadState
  split
  · trivial
  · refine meets_askFence trivial fun answer => ?_
    split <;> trivial

theorem checkContext_meets (g : SettlementFence) :
    Meets (fenceContract f task) (fun _ _ => True) seen g.checkContext := by
  unfold SettlementFence.checkContext
  split
  · refine Meets.bind (loadState_meets _) fun later result _ => ?_
    cases result with
    | error err => exact meets_askFence trivial fun _ => trivial
    | ok state =>
      refine meets_askFence trivial fun _ => ?_
      split <;> trivial
  · refine meets_askFence trivial fun state => ?_
    split <;> trivial

theorem environment_of_checkCommand (passed : f.checkCommand lib c now = none) :
    c.action.supported = true ∧ (f.environment = "" ∨ c.environment = f.environment) := by
  unfold SettlementFence.checkCommand at passed
  split at passed
  · cases passed
  split at passed
  · cases passed
  rename_i supported
  split at passed
  · cases passed
  rename_i environment
  refine ⟨not_not.mp supported, ?_⟩
  by_cases empty : f.environment = ""
  · exact .inl empty
  · exact .inr (not_not.mp fun differs => environment ⟨empty, differs⟩)

/-- How a durable fence ends a successful `ApplyContext`. -/
def Applied (f : SettlementFence) (c : FenceCommand) (later : FenceSeen) : Prop :=
  c.action.supported = true ∧ c.environment = f.environment ∧
    (later.last = some ⟨.seen f.replica c.commandID, true⟩ ∨
      later.last = some ⟨.applyLocal f.replica c, ()⟩ ∧ later.knows c)

/-- Success of a durable fence means that the command was applied. -/
theorem applyContext_meets (lib : FenceLibrary) (now : Time) (about : task.command = some c) :
    Meets (fenceContract f task) (fun later err => f.durable = true → err = none →
      Applied f c later) seen (f.applyContext lib c now) := by
  unfold SettlementFence.applyContext
  split
  · exact fun _ => nofun
  rename_i passed
  obtain ⟨supported, environment⟩ := environment_of_checkCommand passed
  have placed : f.durable = true → c.environment = f.environment := fun durable =>
    environment.resolve_left (f.named durable)
  refine meets_askFence trivial fun answer => ?_
  cases answer with
  | true => exact fun durable _ => ⟨supported, placed durable, .inl rfl⟩
  | false =>
    rw [if_neg nofun]
    split
    · rename_i durable
      refine Meets.bind (recordFenceCommandContext_meets about) fun later result ends => ?_
      cases result with
      | some err => exact fun _ => nofun
      | none =>
        refine meets_askFence ⟨rfl, fun _ => ⟨ends rfl, placed durable⟩⟩ fun _ => ?_
        exact fun _ _ => ⟨supported, placed durable, .inr ⟨rfl, ends rfl⟩⟩
    rename_i volatile
    refine meets_askFence ⟨rfl, fun durable => absurd durable volatile⟩ fun _ => ?_
    exact fun durable => absurd durable volatile

end

/-! ## Submissions -/

def portClears : Event ledgerPorts → Bool
  | ⟨.ctxErr, none⟩ => true
  | _ => false

/-- Transfers are submitted, if at all, right after the context was found in order. -/
def submitContract (submits : Bool) : Contract ledgerPorts Bool where
  rely _ _ := True
  guar clear
    | .createTransfers _ => submits = true ∧ clear = true
    | _ => True
  observe _ := portClears

section
variable [LedgerLibrary] {submits : Bool} {α : Type} {post : Bool → α → Prop}

omit [LedgerLibrary] in
theorem meets_askPort (permitted : (submitContract submits).guar clear port)
    (meets : ∀ answer, Meets (submitContract submits) post (portClears ⟨port, answer⟩)
      (rest answer)) : Meets (submitContract submits) post clear (port.call >>= rest) :=
  ⟨permitted, fun answer _ => meets answer⟩

theorem createTransfers_submits (client : TigerBeetleClient) (transfers : List Transfer) :
    Meets (submitContract true) (fun _ _ => True) clear (client.createTransfers transfers) := by
  refine meets_askPort trivial fun err => ?_
  rcases err with _ | err
  case some => trivial
  dsimp only
  split
  · trivial
  split
  · trivial
  rcases transfers.mapM client.mapTransfer with err | mapped
  · trivial
  refine meets_askPort ⟨rfl, rfl⟩ fun answer => ?_
  rcases answer with err | results
  · trivial
  dsimp only
  cases TigerBeetleClient.rejection 0 results with
  | some err => trivial
  | none =>
    refine meets_askPort trivial fun err => ?_
    cases err <;> trivial

theorem postTransfer_submits (s : PostingService) (req : PostingRequest) (mode : TransferMode)
    (projectFinal : Bool) :
    Meets (submitContract true) (fun _ _ => True) clear (s.postTransfer req mode projectFinal) := by
  unfold PostingService.postTransfer
  split
  · trivial
  refine Meets.bind (createTransfers_submits _ _) fun later err _ => ?_
  rcases err with _ | err
  case some => trivial
  refine meets_askPort trivial fun now => ?_
  split
  · trivial
  have projects : Meets (submitContract true) (fun _ _ => True) (portClears ⟨.now, now⟩)
      (projectConfirmedTransfer s.sink (PostingService.factOf req now)) := by
    unfold projectConfirmedTransfer
    split
    · trivial
    split
    · trivial
    exact ⟨trivial, fun _ _ => trivial⟩
  refine Meets.bind projects fun after err _ => ?_
  rcases err with _ | err
  case some => trivial
  dsimp only
  split
  · refine meets_askPort trivial fun err => ?_
    cases err <;> trivial
  · trivial

section
variable (g : GuardedLedger) (operation : GuardedOperation) (req : PostingRequest)
include g operation req

theorem operate_submits :
    Meets (submitContract true) (fun _ _ => True) clear (g.operate operation req) := by
  cases operation with
  | confirm => exact postTransfer_submits _ _ _ _
  | prepare =>
    show Meets (submitContract true) _ _ (g.inner.postPendingTransfer req)
    unfold PostingService.postPendingTransfer
    split
    · trivial
    · exact postTransfer_submits _ _ _ _
  | commit =>
    show Meets (submitContract true) _ _ (g.inner.commitPendingTransfer req)
    unfold PostingService.commitPendingTransfer
    split
    · trivial
    · exact postTransfer_submits _ _ _ _
  | void =>
    show Meets (submitContract true) _ _ (g.inner.voidPendingTransfer req)
    unfold PostingService.voidPendingTransfer
    split
    · trivial
    · exact postTransfer_submits _ _ _ _

theorem operateWithAdmission_submits (token : AdmissionToken) :
    Meets (submitContract true) (fun _ _ => True) clear (g.operateWithAdmission operation req token) := by
  unfold GuardedLedger.operateWithAdmission
  split
  · trivial
  · exact operate_submits g operation req

end

theorem lookupTransfer_submits (s : PostingService) (id : UInt64) :
    Meets (submitContract false) (fun _ _ => True) clear (s.lookupTransfer id) := by
  unfold PostingService.lookupTransfer
  split
  · split
    · trivial
    unfold TigerBeetleClient.lookupTransfer
    split
    · trivial
    refine meets_askPort trivial fun err => ?_
    rcases err with _ | err
    case some => trivial
    refine meets_askPort trivial fun answer => ?_
    split
    · trivial
    · trivial
    · split <;> trivial
    · trivial
  · trivial

end

/-! ## Calls on the ledger -/

section
variable [LedgerLibrary] {f : SettlementFence} {task : FenceTask} {seen : FenceSeen} {α : Type}

omit [LedgerLibrary] in
/-- Ledger code runs within what is known of the transaction, where submissions are allowed
as far as they are admitted. -/
theorem onLedger_meets (meets : Meets (submitContract submits) (fun _ _ => True) false code)
    (admits : submits = true → f.durable = true → ∃ row, phase = .admitted f.environment row)
    (start : seen.phase = phase) :
    Meets (fenceContract f task) (fun later _ => later.phase = phase) seen (onLedger code) := by
  have related : Meets (fenceContract f task)
      (fun low value => ∃ clear : Bool,
        (low.phase = phase ∧ (clear = true → low.last.any clears = true)) ∧ True) seen
      (onLedger code) := by
    refine Meets.link_related (K := submitContract submits) ?_ meets ⟨start, ?_⟩
    · rintro port clear low ⟨same, cleared⟩ permitted
      refine ⟨?_, fun answer _ => ⟨trivial, ?_, ?_⟩⟩
      · cases port with
        | createTransfers batch =>
          intro durable
          obtain ⟨row, admitted⟩ := admits permitted.1 durable
          exact ⟨cleared permitted.2, row, same.trans admitted⟩
        | _ => trivial
      · exact same
      intro now
      cases port with
      | ctxErr =>
        cases answer with
        | none => rfl
        | some err => cases now
      | _ => cases now
    · exact nofun
  exact related.mono fun low _ ends => ends.elim fun _ facts => facts.1.1

omit [LedgerLibrary] in
/-- An admission was given for a row that is not fenced. -/
theorem acquireAdmission_meets (environment : String) :
    Meets (fenceContract f task) (fun later result => ∀ token, result = .ok token →
      ∃ row, later.phase = .admitted environment row) seen (acquireAdmission environment) := by
  unfold acquireAdmission
  split
  · exact fun _ => nofun
  refine meets_askFence trivial fun err => ?_
  rcases err with _ | err
  case some => exact fun _ => nofun
  refine meets_askFence rfl fun answer => ?_
  split
  · exact meets_askFence trivial fun _ _ => nofun
  · exact meets_askFence trivial fun _ _ => nofun
  rename_i row
  split
  · exact meets_askFence trivial fun _ _ => nofun
  rename_i open_
  intro token _
  exact ⟨row, if_neg open_⟩

/-- A guarded posting submits only while it is admitted. -/
theorem post_meets (inner : PostingService) (operation : GuardedOperation) (req : PostingRequest) :
    Meets (fenceContract f task) (fun _ _ => True) seen
      (GuardedLedger.post ⟨f, inner⟩ operation req) := by
  unfold GuardedLedger.post
  split
  · refine Meets.bind (acquireAdmission_meets f.environment) fun later result ends => ?_
    rcases result with err | token
    · exact meets_askFence trivial fun _ => trivial
    obtain ⟨row, admitted⟩ := ends token rfl
    refine Meets.bind (onLedger_meets (operateWithAdmission_submits _ _ _ _)
      (fun _ _ => ⟨row, rfl⟩) admitted) fun after answer same => ?_
    refine meets_askFence ?_ fun err => ?_
    · show after.phase ≠ .outside ∧ after.phase.commands.map CommandRow.state = after.phase.states
      rw [same]
      exact ⟨nofun, rfl⟩
    · split <;> trivial
  rename_i volatile
  refine Meets.bind (checkContext_meets _) fun later result _ => ?_
  cases result with
  | some err => trivial
  | none =>
    exact (onLedger_meets (operate_submits _ _ _) (fun _ durable => absurd durable volatile)
      rfl).mono fun _ _ _ => trivial

theorem lookupTransfer_meets (g : GuardedLedger) (id : UInt64) :
    Meets (fenceContract f task) (fun _ _ => True) seen (g.lookupTransfer id) := by
  refine Meets.bind (checkContext_meets _) fun later result _ => ?_
  cases result with
  | some err => trivial
  | none =>
    exact (onLedger_meets (lookupTransfer_submits _ _) (fun submits => absurd submits nofun)
      rfl).mono fun _ _ _ => trivial

end

/-! ## Every call -/

def JobEnds (f : SettlementFence) (task : FenceTask) (later : FenceSeen) (outcome : FenceOutcome) :
    Prop :=
  match task with
  | .record c => outcome = .ended none → later.knows c
  | .apply c _ => f.durable = true → outcome = .ended none → Applied f c later
  | _ => True

variable [LedgerLibrary] {fleet : Fleet}

/-- Every call of a replica keeps the contract. -/
theorem job_meets (job : FenceJob) :
    Meets (fenceContract (fleet.fence job.replica) job.task)
      (JobEnds (fleet.fence job.replica) job.task) seen (fleet.program job) := by
  obtain ⟨replica, task⟩ := job
  cases task with
  | record c =>
    refine Meets.bind (recordFenceCommandContext_meets rfl) fun later err ends => ?_
    intro same
    cases same
    exact ends rfl
  | apply c now =>
    refine Meets.bind (applyContext_meets _ now rfl) fun later err ends => ?_
    intro durable same
    cases same
    exact ends durable rfl
  | check => exact Meets.bind (checkContext_meets _) fun _ _ _ => trivial
  | post operation req => exact Meets.bind (post_meets _ _ _) fun _ _ _ => trivial
  | lookup id => exact Meets.bind (lookupTransfer_meets _ _) fun _ _ _ => trivial

abbrev Keeps (fleet : Fleet) (thread : FenceThread) : Prop :=
  Meets (fenceContract (fleet.fence thread.label.replica) thread.label.task)
    (JobEnds (fleet.fence thread.label.replica) thread.label.task) (fenceSeenIn thread.past)
    thread.rest

theorem caller_of_reaches (reached : (replicas fleet).Reaches ⟨start, []⟩ config)
    (present : thread ∈ config.threads) : Keeps fleet thread := by
  obtain ⟨shared, program, started, ran⟩ := reached.run_of_thread rfl present
  cases started
  exact (Meets.run ran (job_meets _) (relied_of_true thread.past)).2

end UmojaFlowOS.Fencing
