import UmojaFlowOS.Settlement.Proofs.SagaLog

/-!
# Leaving the stage unknown

A resolution looks its authorization up under the saga the caller names in the
authorization and consumes one under the saga it has locked, so the two are the
same row only if the caller passes an authorization of that saga.
-/

namespace UmojaFlowOS.Settlement.PostgresSagaStore

open Interaction Relational

/-- The step from `config` to `later` resolves the saga at `row`, as the holder of
its lease, under the authorization `used`. -/
structure Resolution (config later : StoreConfig) (row resolved : SagaRow)
    (used : AuthorizationRow) (caller : Nat) (owner : String)
    (authorization : ResolutionAuthorization) : Prop where
  committed : ∃ current update, row.key = (current.tenantID, current.idempotencyKey) ∧
    later.shared.accepted = config.shared.accepted ++
      [(caller, .resolveUnknownSaga current owner authorization update)]
  leased : row.leaseOwner = owner ∧ ∃ leasedUntil, row.leasedUntil = some leasedUntil ∧
    ∃ now ∈ readingsOf config.threads caller, now < leasedUntil
  active : used ∈ config.shared.db.authorizations ∧ used.consumed = none
  issued : used.key = (row.record.tenantID, row.record.sagaID, authorization.authorizationID)
  unexpired : ∃ now ∈ readingsOf config.threads caller, now < used.authorization.expiresAt
  decided : used.authorization.decision = authorization.decision
  applied : resolved.record.stage = resolutionStage used.authorization.decision
  consumed : ∃ now, later.shared.db.authorizations = updateWhere (fun other => other = used)
    (fun other => { other with consumed := some (now, owner) }) config.shared.db.authorizations

/-- A step leaves every terminal saga as it is, except that it may resolve one
unknown saga under an authorization issued for it, which it consumes. -/
structure Lawful (config later : StoreConfig) : Prop where
  sagas : ∀ row ∈ config.shared.db.sagas, ∃ after ∈ later.shared.db.sagas, after.key = row.key ∧
    (after.record.stage = row.record.stage ∨
      row.record.stage ≠ .settled ∧ row.record.stage ≠ .held ∧
        (row.record.stage = .unknown → ∃ used caller owner authorization,
          Resolution config later row after used caller owner authorization))
  authorizations : ∀ used ∈ config.shared.db.authorizations,
    used ∈ later.shared.db.authorizations ∨
      ∃ row ∈ config.shared.db.sagas, row.record.stage = .unknown ∧
        ∃ after ∈ later.shared.db.sagas, ∃ caller owner authorization,
          Resolution config later row after used caller owner authorization

/-- The authorization a caller passes was issued for the saga it resolves, or the
saga's own authorization of that id decides the same and has not expired. -/
def ProperlyAuthorized (config : StoreConfig) (caller : Nat) : StoreCall → Prop
  | .resolveUnknownSaga current _ authorization _ =>
    authorization.sagaID = current.sagaID ∨
      ∀ own ∈ config.shared.db.authorizations,
        own.key = (current.tenantID, current.sagaID, authorization.authorizationID) →
        own.consumed = none → own.authorization.decision = authorization.decision ∧
          ∃ now ∈ readingsOf config.threads caller, now < own.authorization.expiresAt
  | _ => True

variable {db : Database}

theorem row_of_authorizationKey (wellFormed : WellFormed db) (left : first ∈ db.authorizations)
    (right : second ∈ db.authorizations) (same : first.key = second.key) : first = second :=
  List.inj_on_of_nodup_map wellFormed.authorizationKey left right same

theorem updateWhere_consume (wellFormed : WellFormed db) (present : used ∈ db.authorizations)
    (active : used.consumed = none) (change : AuthorizationRow → AuthorizationRow) :
    updateWhere (fun row => row.key = used.key && row.consumed.isNone) change db.authorizations =
      updateWhere (fun row => row = used) change db.authorizations := by
  refine List.map_congr_left fun row there => ?_
  have same : (row.key = used.key ∧ row.consumed.isNone = true) ↔ row = used := by
    refine ⟨fun found => row_of_authorizationKey wellFormed there present found.1, ?_⟩
    rintro rfl
    exact ⟨rfl, by rw [active]; rfl⟩
  simp only [Bool.and_eq_true, decide_eq_true_eq, same]

theorem saga_after_update (wellFormed : WellFormed db)
    (present : row ∈ db.sagas) (there : other ∈ db.sagas) (condition : SagaRow → Bool)
    (update : SagaRow → SagaRow) (matched : condition row = true)
    (only : ∀ other, condition other = true → other.sagaKey = row.sagaKey) :
    (other = row ∧ update row ∈ updateWhere condition update db.sagas) ∨
      other ∈ updateWhere condition update db.sagas := by
  have updated {after : SagaRow} : after ∈ updateWhere condition update db.sagas ↔ _ :=
    mem_updateWhere_of_unique wellFormed.sagaKey present matched only
  by_cases same : other.sagaKey = row.sagaKey
  · exact .inl ⟨row_of_sagaKey wellFormed there present same, updated.mpr (.inl rfl)⟩
  · exact .inr (updated.mpr (.inr ⟨there, same⟩))

section
variable {config later : StoreConfig} {caller : Nat} {call : StoreCall}

theorem Lawful.keep
    (sagas : ∀ row ∈ config.shared.db.sagas, ∃ after ∈ later.shared.db.sagas, after.key = row.key ∧
      after.record.stage = row.record.stage)
    (authorizations : config.shared.db.authorizations ⊆ later.shared.db.authorizations) :
    Lawful config later where
  sagas row present := by
    obtain ⟨after, there, key, stage⟩ := sagas row present
    exact ⟨after, there, key, .inl stage⟩
  authorizations used present := .inl (authorizations present)

section
variable (wellFormed : WellFormed config.shared.db)
include wellFormed

/-- A proper authorization decides as the saga's own does, in time. -/
theorem decided_of_proper (proper : ProperlyAuthorized config caller
      (.resolveUnknownSaga current owner authorization update))
    (approved : approval ∈ config.shared.db.authorizations) (approvalKey : approval.key =
      (authorization.tenantID, authorization.sagaID, authorization.authorizationID))
    (bound : approval.authorization.tenantID = current.tenantID)
    (decision : approval.authorization.decision = authorization.decision)
    (readAt : checked ∈ readingsOf config.threads caller)
    (valid : checked < approval.authorization.expiresAt)
    (present : used ∈ config.shared.db.authorizations) (active : used.consumed = none)
    (usedKey : used.key = (current.tenantID, current.sagaID, authorization.authorizationID)) :
    used.authorization.decision = authorization.decision ∧
      ∃ now ∈ readingsOf config.threads caller, now < used.authorization.expiresAt := by
  rcases proper with same | agrees
  · have tenant : authorization.tenantID = current.tenantID :=
      (congrArg Prod.fst approvalKey).symm.trans bound
    rw [tenant, same, ← usedKey] at approvalKey
    obtain rfl := row_of_authorizationKey wellFormed approved present approvalKey
    exact ⟨decision, checked, readAt, valid⟩
  · exact agrees used present usedKey active

/-- A commit under a proper authorization is lawful. -/
theorem lawful_of_effect
    (effect : Effect config.shared.db (readingsOf config.threads caller) call later.shared.db)
    (accepted : later.shared.accepted = config.shared.accepted ++ [(caller, call)])
    (proper : ProperlyAuthorized config caller call) : Lawful config later := by
  obtain ⟨⟨db, sessions, logged⟩, threads⟩ := later
  dsimp only at effect accepted
  cases effect with
  | reserved intent digest now stamp =>
    exact .keep (fun row present => ⟨row, List.mem_append_left _ present, rfl, rfl⟩)
      (List.Subset.refl _)
  | advanced _ current next update row now stamp asked allowed present matched =>
    have found : row.sagaKey = (current.tenantID, current.sagaID) :=
      Prod.ext matched.tenantID matched.sagaID
    have open_ : terminalStage row.record.stage = false := by
      rw [matched.stage]
      exact not_terminal_of_stageAllowsRecord allowed
    refine ⟨fun other there => ?_, fun used present => .inl present⟩
    rcases saga_after_update wellFormed present there
        (SagaRow.atVersion current.tenantID current.sagaID current.version current.stage)
        (SagaRow.advanced (recordWithUpdate row.record next update now) stamp)
        (by simp [SagaRow.atVersion, found, matched.version, matched.stage])
        (fun other held => (atVersion_sagaKey held).trans found.symm) with ⟨rfl, moved⟩ | kept
    · refine ⟨_, moved, rfl, .inr ⟨?_, ?_, ?_⟩⟩ <;> intro stage <;> rw [stage] at open_ <;>
        exact absurd open_ (by decide)
    · exact ⟨other, kept, rfl, .inl rfl⟩
  | claimed tenantID owner limit lease now keys stamp rows =>
    refine .keep (fun row present => ?_) (List.Subset.refl _)
    by_cases taken : (row.record.tenantID = tenantID && keys.contains row.record.idempotencyKey) = true
    · exact ⟨_, mem_updateWhere.mpr (.inl ⟨row, present, taken, rfl⟩), rfl, rfl⟩
    · exact ⟨row, mem_updateWhere.mpr (.inr ⟨present, by simpa using taken⟩), rfl, rfl⟩
  | resolved current owner authorization update row approval used leasedUntil leasedAt checked now
      consumed stamp present keyed sagaID version unknown named isOwner isLeased leaseRead unexpired
      approved approvalKey bound decision unconsumed checkRead valid usedPresent usedKey unused =>
    have tenant : row.record.tenantID = current.tenantID := congrArg Prod.fst keyed
    obtain ⟨decided, stillValid⟩ := decided_of_proper wellFormed proper approved approvalKey bound
      decision checkRead valid usedPresent unused (by rw [usedKey, tenant, sagaID])
    let values := recordWithUpdate row.record (resolutionStage authorization.decision)
      (resolutionUpdate authorization update) now
    let condition := SagaRow.leasedUnknown row.record.tenantID row.record.sagaID row.record.version owner
    have matched : condition row = true := by
      simp [condition, SagaRow.leasedUnknown, SagaRow.sagaKey, unknown, isOwner]
    have only : ∀ other, condition other = true → other.sagaKey = row.sagaKey :=
      fun other held => leasedUnknown_sagaKey held
    have consumes := updateWhere_consume wellFormed usedPresent unused
      fun other => { other with consumed := some (consumed, owner) }
    rw [usedKey] at consumes
    rw [applyAll_resolveWrites, consumes]
    have resolution (transitions : List TransitionRow) (outbox : List OutboxRow) :
        Resolution config ⟨⟨⟨updateWhere condition (SagaRow.resolved values stamp)
            config.shared.db.sagas, transitions, outbox, updateWhere (fun other => other = used)
              (fun other => { other with consumed := some (consumed, owner) })
              config.shared.db.authorizations⟩, sessions, logged⟩, threads⟩
          row (row.resolved values stamp) used caller owner authorization :=
      { committed := ⟨current, update, keyed, accepted⟩
        leased := ⟨isOwner, leasedUntil, isLeased, leasedAt, leaseRead, unexpired⟩
        active := ⟨usedPresent, unused⟩
        issued := usedKey
        unexpired := stillValid
        decided := decided
        applied := by
          rw [decided]
          rfl
        consumed := ⟨consumed, rfl⟩ }
    refine ⟨fun other there => ?_, fun other there => ?_⟩
    · rcases saga_after_update wellFormed present there condition (SagaRow.resolved values stamp)
          matched only with ⟨rfl, moved⟩ | kept
      · refine ⟨_, moved, rfl, .inr ⟨?_, ?_, fun _ =>
          ⟨used, caller, owner, authorization, resolution _ _⟩⟩⟩
        · rw [unknown]
          decide
        · rw [unknown]
          decide
      · exact ⟨other, kept, rfl, .inl rfl⟩
    by_cases same : other = used
    · subst same
      refine .inr ⟨row, present, unknown, _, ?_, caller, owner, authorization, resolution _ _⟩
      exact mem_updateWhere.mpr (.inl ⟨row, present, matched, rfl⟩)
    · exact .inl (mem_updateWhere.mpr (.inr ⟨there, by simpa using same⟩))

/-- A lawful commit was properly authorized. -/
theorem proper_of_lawful (after : WellFormed later.shared.db)
    (effect : Effect config.shared.db (readingsOf config.threads caller) call later.shared.db)
    (accepted : later.shared.accepted = config.shared.accepted ++ [(caller, call)])
    (lawful : Lawful config later) : ProperlyAuthorized config caller call := by
  cases call with
  | resolveUnknownSaga current owner authorization update =>
    obtain ⟨⟨db, sessions, logged⟩, threads⟩ := later
    cases effect with
    | advanced _ _ _ _ _ _ _ asked => cases asked
    | resolved _ _ _ _ row approval used leasedUntil leasedAt checked now consumed stamp present keyed
        sagaID version unknown named isOwner =>
      -- The resolved row is the only one of its key, and its stage has changed.
      obtain ⟨resolved, there, sameKey, moved⟩ := lawful.sagas row present
      let values := recordWithUpdate row.record (resolutionStage authorization.decision)
        (resolutionUpdate authorization update) now
      have matched : row.leasedUnknown row.record.tenantID row.record.sagaID row.record.version owner =
          true := by simp [SagaRow.leasedUnknown, SagaRow.sagaKey, unknown, isOwner]
      obtain rfl : resolved = row.resolved values stamp := row_of_key after there
        (mem_updateWhere.mpr (.inl ⟨row, present, matched, rfl⟩)) sameKey
      have left : (row.resolved values stamp).record.stage ≠ row.record.stage := by
        rw [unknown]
        show resolutionStage authorization.decision ≠ .unknown
        unfold resolutionStage
        split <;> decide
      rcases moved with same | ⟨-, -, resolves⟩
      · exact absurd same left
      obtain ⟨own, other, worker, passed, resolution⟩ := resolves unknown
      obtain ⟨_, _, -, log⟩ := resolution.committed
      obtain ⟨rfl, rfl, rfl, rfl, rfl⟩ : caller = other ∧ current = _ ∧ owner = worker ∧
          authorization = passed ∧ update = _ := by
        simpa using accepted.symm.trans log
      refine .inr fun mine found key active => ?_
      have tenant : row.record.tenantID = current.tenantID := congrArg Prod.fst keyed
      obtain rfl := row_of_authorizationKey wellFormed found resolution.active.1
        (by rw [key, resolution.issued, tenant, sagaID])
      exact ⟨resolution.decided, resolution.unexpired⟩
  | _ => trivial

end

end

theorem consumed_stays_of_effect {call : StoreCall}
    (effect : Effect db readings call after) (present : row ∈ db.authorizations)
    (consumed : row.consumed ≠ none) : row ∈ after.authorizations := by
  cases effect with
  | resolved =>
    refine mem_updateWhere.mpr (.inr ⟨present, ?_⟩)
    have spent : row.consumed.isNone = false := by simpa [Option.isSome_iff_ne_none] using consumed
    rw [spent, Bool.and_false]
  | _ => exact present

/-- In every reachable state, a step is lawful exactly if it commits no resolution
whose authorization belongs to another saga and disagrees with the saga's own. An
authorization once consumed stays as it is. -/
theorem lawful_iff_properly_authorized {config later : StoreConfig}
    {action : Action StoreCall SqlChoice StoreEvent} (reached : postgres.Reaches emptyStore config)
    (taken : postgres.next config action = some later) :
    (Lawful config later ↔ ∀ caller call,
      later.shared.accepted = config.shared.accepted ++ [(caller, call)] →
      ProperlyAuthorized config caller call) ∧
    ∀ used ∈ config.shared.db.authorizations, used.consumed ≠ none →
      used ∈ later.shared.db.authorizations := by
  have wellFormed := (guarded_of_reaches reached).wellFormed
  have kept_lawful : config.shared.db.sagas = later.shared.db.sagas →
      config.shared.db.authorizations ⊆ later.shared.db.authorizations →
      later.shared.accepted = config.shared.accepted →
      (Lawful config later ↔ ∀ caller call,
        later.shared.accepted = config.shared.accepted ++ [(caller, call)] →
        ProperlyAuthorized config caller call) := by
    intro sagas authorizations kept
    refine ⟨fun _ caller call logged => absurd (kept.symm.trans logged) (by simp), fun _ => ?_⟩
    exact .keep (fun row present => ⟨row, sagas ▸ present, rfl, rfl⟩) authorizations
  cases stepped_of_reaches reached taken with
  | quiet same kept =>
    have all : config.shared.db.authorizations ⊆ later.shared.db.authorizations :=
      same ▸ List.Subset.refl _
    exact ⟨kept_lawful (congrArg Database.sagas same.symm) all kept, fun used present _ => all present⟩
  | issued row _ same _ kept =>
    have all : config.shared.db.authorizations ⊆ later.shared.db.authorizations :=
      same ▸ List.subset_append_left _ _
    have sagas : config.shared.db.sagas = later.shared.db.sagas := by rw [same]
    exact ⟨kept_lawful sagas all kept, fun used present _ => all present⟩
  | committed caller call effect after kept =>
    refine ⟨⟨fun lawful other accepted logged => ?_, fun proper => ?_⟩,
      fun used present consumed => consumed_stays_of_effect effect present consumed⟩
    · obtain ⟨rfl, rfl⟩ : caller = other ∧ call = accepted := by
        simpa using kept.symm.trans logged
      exact proper_of_lawful wellFormed after effect kept lawful
    · exact lawful_of_effect wellFormed effect kept (proper caller call kept)

/-! ## A resolution under the authorization of another saga -/

def payoutIntent : Intent :=
  { depositIntent with id := "intent-2", idempotencyKey := "key-2", direction := .offramp }

/-- An authorization `auth-1` for a saga of `tenant-a`. -/
def approval (sagaID : String) (decision : Decision) : ResolutionAuthorization :=
  { tenantID := "tenant-a", sagaID := sagaID, authorizationID := "auth-1", decision := decision,
    releaseSHA := "aaaaaaaaaaaaaaaaaaaaaaaaaaaaaaaaaaaaaaaa",
    manifestSHA256 := depositIntent.payloadSHA256, reconciliationRunID := "run-2026-1",
    evidenceSHA256 := depositIntent.payloadSHA256, expiresAt := 100 }

def changeSteps (i : Nat) (time : Time) : List (Action StoreCall SqlChoice StoreEvent) :=
  [.exec i (.begins fun _ => time), .exec i .ok, .exec i (.reads time), .exec i .ok, .exec i .ok,
    .exec i .ok, .exec i .ok]

def reserveSteps (i : Nat) (time : Time) : List (Action StoreCall SqlChoice StoreEvent) :=
  [.exec i (.reads time), .exec i (.begins fun _ => time), .exec i (.reads time), .exec i .ok,
    .exec i .ok, .exec i .ok, .exec i .ok]

def depositRecord : SettlementRecord := reservedRecord depositIntent depositIntent.payloadSHA256 1

def payoutRecord : SettlementRecord := reservedRecord payoutIntent depositIntent.payloadSHA256 3

def ledgerIDs : SagaUpdate := { ledgerPendingID := 41, ledgerTransferID := 42 }

/-- The claim of the payout by a worker, and its resolution up to the commit. -/
def resolutionSteps : List (Action StoreCall SqlChoice StoreEvent) :=
  [.spawn (.claimUnknownSagas "tenant-a" "worker" 1 50), .exec 5 (.begins fun _ => 7),
    .exec 5 (.reads 7), .exec 5 (.picks ["key-2"]), .exec 5 .ok,
    .spawn (.resolveUnknownSaga (recordWithUpdate payoutRecord .unknown {} 4) "worker"
      (approval depositRecord.sagaID .commit) {}),
    .exec 6 (.begins fun _ => 8), .exec 6 .ok, .exec 6 (.reads 8), .exec 6 .ok, .exec 6 .ok,
    .exec 6 (.reads 8), .exec 6 (.reads 8), .exec 6 .ok, .exec 6 .ok, .exec 6 .ok,
    .exec 6 (.reads 8), .exec 6 .ok]

/-- A deposit and a payout are unknown, the one authorized to commit, the other to be held, both
under the id `auth-1`. A worker resolves the payout with the authorization of the deposit; the
commit comes next. -/
def crossedResolution : List (Action StoreCall SqlChoice StoreEvent) :=
  List.flatten [
    .spawn (.reserve depositIntent depositIntent.payloadSHA256) :: reserveSteps 0 1,
    .spawn (.advance depositRecord .screened ledgerIDs) :: changeSteps 1 2,
    .spawn (.reserve payoutIntent depositIntent.payloadSHA256) :: reserveSteps 2 3,
    .spawn (.markUnknown payoutRecord "timeout") :: changeSteps 3 4,
    .spawn (.markUnknown (recordWithUpdate depositRecord .screened ledgerIDs 2) "timeout") ::
      changeSteps 4 5,
    .env (.issued ⟨approval depositRecord.sagaID .commit, 6, 6, none⟩) ::
      .env (.issued ⟨approval payoutRecord.sagaID .hold, 6, 6, none⟩) :: resolutionSteps]

def stages (config : StoreConfig) : List (String × String × ExecutionStage) :=
  config.shared.db.sagas.map fun row =>
    (row.record.idempotencyKey, row.record.sagaID, row.record.stage)

/-- The authorizations: the saga each was issued for, its decision, and whether it
has been consumed. -/
def approvals (config : StoreConfig) : List (String × Decision × Bool) :=
  config.shared.db.authorizations.map fun row =>
    (row.authorization.sagaID, row.authorization.decision, row.consumed.isSome)

def depositSaga : String := sagaID "tenant-a" "key-1" depositIntent.payloadSHA256

def payoutSaga : String := sagaID "tenant-a" "key-2" depositIntent.payloadSHA256

structure Crossed (config later : StoreConfig) : Prop where
  unknown : stages config = [("key-1", depositSaga, .unknown), ("key-2", payoutSaga, .unknown)]
  issued : approvals config = [(depositSaga, .commit, false), (payoutSaga, .hold, false)]
  settled : stages later = [("key-1", depositSaga, .unknown), ("key-2", payoutSaga, .settled)]
  consumed : approvals later = [(depositSaga, .commit, false), (payoutSaga, .hold, true)]

theorem crossed_resolution :
    ∃ config later, postgres.Reaches emptyStore config ∧
      postgres.next config (.exec 6 .ok) = some later ∧ Crossed config later := by
  have played : (postgres.replay emptyStore crossedResolution).any (fun config =>
      (postgres.next config (.exec 6 .ok)).any fun later =>
        stages config = [("key-1", depositSaga, .unknown), ("key-2", payoutSaga, .unknown)] ∧
        approvals config = [(depositSaga, .commit, false), (payoutSaga, .hold, false)] ∧
        stages later = [("key-1", depositSaga, .unknown), ("key-2", payoutSaga, .settled)] ∧
        approvals later = [(depositSaga, .commit, false), (payoutSaga, .hold, true)]) = true := by
    decide +kernel
  obtain ⟨config, replayed, stepped⟩ := (Option.any_eq_true _ _).mp played
  obtain ⟨later, taken, facts⟩ := (Option.any_eq_true _ _).mp stepped
  obtain ⟨unknown, issued, settled, consumed⟩ := of_decide_eq_true facts
  exact ⟨config, later, Machine.reaches_of_replay replayed, taken, unknown, issued, settled, consumed⟩

theorem depositSaga_ne_payoutSaga : depositSaga ≠ payoutSaga := by decide +kernel

attribute [local irreducible] depositSaga payoutSaga

theorem Crossed.not_lawful (crossed : Crossed config later) : ¬ Lawful config later := by
  intro lawful
  have listed : ("key-2", payoutSaga, ExecutionStage.unknown) ∈ stages config := by
    rw [crossed.unknown]
    simp
  obtain ⟨row, present, same⟩ := List.mem_map.mp listed
  simp only [Prod.mk.injEq] at same
  obtain ⟨key, saga, unknown⟩ := same
  obtain ⟨after, there, sameKey, moved⟩ := lawful.sagas row present
  -- The payout is settled now, so it must have been resolved.
  have settled : after.record.stage = .settled := by
    have found : (after.record.idempotencyKey, after.record.sagaID, after.record.stage) ∈
        stages later := List.mem_map_of_mem there
    have named : after.record.idempotencyKey = "key-2" := (congrArg Prod.snd sameKey).trans key
    rw [crossed.settled, named] at found
    have row : after.record.sagaID = payoutSaga ∧ after.record.stage = .settled := by
      simpa using found
    exact row.2
  rw [settled, unknown] at moved
  obtain ⟨used, caller, owner, authorization, resolution⟩ :=
    (moved.resolve_left (by decide)).2.2 rfl
  have found : (used.authorization.sagaID, used.authorization.decision, used.consumed.isSome) ∈
      approvals config := List.mem_map_of_mem resolution.active.1
  have own : used.authorization.sagaID = payoutSaga :=
    (congrArg (fun key => key.2.1) resolution.issued).trans saga
  have hold : used.authorization.decision = .hold := by
    rw [crossed.issued, own] at found
    have row : used.authorization.decision = .hold ∧ used.consumed = none := by
      simpa [depositSaga_ne_payoutSaga.symm] using found
    exact row.1
  have applied := resolution.applied
  rw [settled, hold] at applied
  exact absurd applied (by decide)

/-- A saga that was authorized only to be held is settled, and its authorization consumed. -/
theorem held_payout_settles_under_another_authorization :
    ∃ config later, postgres.Reaches emptyStore config ∧
      postgres.next config (.exec 6 .ok) = some later ∧ Crossed config later ∧
      ¬ Lawful config later := by
  obtain ⟨config, later, reached, taken, crossed⟩ := crossed_resolution
  exact ⟨config, later, reached, taken, crossed, crossed.not_lawful⟩

/-- The payout is resolved under the authorization of the deposit. -/
theorem crossed_resolution_is_not_properly_authorized :
    ∃ config later, postgres.Reaches emptyStore config ∧
      postgres.next config (.exec 6 .ok) = some later ∧
      ¬ ∀ caller call, later.shared.accepted = config.shared.accepted ++ [(caller, call)] →
        ProperlyAuthorized config caller call := by
  obtain ⟨config, later, reached, taken, crossed⟩ := crossed_resolution
  exact ⟨config, later, reached, taken,
    (lawful_iff_properly_authorized reached taken).1.not.mp crossed.not_lawful⟩

end UmojaFlowOS.Settlement.PostgresSagaStore
