import UmojaFlowOS.Settlement.Proofs.Resolution
import UmojaFlowOS.Settlement.Proofs.SagaHistory

/-!
# The order in which a saga enters its stages

What the accepted calls of a saga, with whatever updates and by whatever callers,
leave of the intended order.
-/

namespace UmojaFlowOS.Settlement.PostgresSagaStore

open Interaction

def entered (s : StoreState) (row : SagaRow) : List ExecutionStage :=
  (transitionsOf s.db row.sagaKey).map TransitionRow.target

/-- Whenever `stage` was entered, `earlier` had been entered before. -/
def OnlyAfter (earlier stage : ExecutionStage) (stages : List ExecutionStage) : Prop :=
  ∀ i, stages[i]? = some stage → earlier ∈ stages.take i

/-- The intended order of the stages of a saga. -/
structure Ordered (direction : Direction) (stages : List ExecutionStage) : Prop where
  once : stages.Nodup
  committed : OnlyAfter .finalityConfirmed .ledgerCommitted stages
  paidOut : direction = .offramp → OnlyAfter .finalityConfirmed .fiatSubmitted stages

theorem onlyAfter_concat {stages : List ExecutionStage} :
    OnlyAfter earlier stage (stages ++ [next]) ↔
      OnlyAfter earlier stage stages ∧ (next = stage → earlier ∈ stages) := by
  constructor
  · intro after
    refine ⟨?_, ?_⟩
    · intro i found
      obtain ⟨bound, -⟩ := List.getElem?_eq_some_iff.mp found
      have earlierIn := after i (by rw [List.getElem?_append_left bound, found])
      rwa [List.take_append_of_le_length bound.le] at earlierIn
    rintro rfl
    have earlierIn := after stages.length List.getElem?_concat_length
    rwa [List.take_left] at earlierIn
  rintro ⟨before, last⟩ i found
  rcases Nat.lt_or_ge i stages.length with bound | beyond
  · rw [List.getElem?_append_left bound] at found
    rw [List.take_append_of_le_length bound.le]
    exact before i found
  rw [List.getElem?_append_right beyond] at found
  obtain ⟨zero, same⟩ := List.getElem?_eq_some_iff.mp found
  have isLast : i = stages.length := by simp at zero; omega
  subst isLast
  rw [List.take_left]
  exact last (by simpa using same)

/-- What entering `next` asks of the stages entered before. -/
def InOrder (direction : Direction) (stages : List ExecutionStage) (next : ExecutionStage) : Prop :=
  (next = .ledgerCommitted → .finalityConfirmed ∈ stages) ∧
    (direction = .offramp → next = .fiatSubmitted → .finalityConfirmed ∈ stages)

theorem ordered_concat {stages : List ExecutionStage} (once : (stages ++ [next]).Nodup) :
    Ordered direction (stages ++ [next]) ↔ Ordered direction stages ∧ InOrder direction stages next := by
  have before : stages.Nodup := (List.nodup_append.mp once).1
  constructor
  · rintro ⟨-, committed, paidOut⟩
    obtain ⟨committedBefore, committedNow⟩ := onlyAfter_concat.mp committed
    exact ⟨⟨before, committedBefore, fun offramp => (onlyAfter_concat.mp (paidOut offramp)).1⟩,
      committedNow, fun offramp => (onlyAfter_concat.mp (paidOut offramp)).2⟩
  rintro ⟨⟨-, committed, paidOut⟩, committedNow, paidOutNow⟩
  exact ⟨once, onlyAfter_concat.mpr ⟨committed, committedNow⟩, fun offramp =>
    onlyAfter_concat.mpr ⟨paidOut offramp, paidOutNow offramp⟩⟩

/-! ## What leads to which stage -/

section
variable {next : ExecutionStage}

theorem source_of_finalityConfirmed
    (allowed : stageAllowsRecord current .finalityConfirmed = true) :
    current.stage = .custodySubmitted := by
  cases stage : current.stage <;> simp_all [stageAllowsRecord, stageAllows]

theorem source_of_fiatSubmitted (allowed : stageAllowsRecord current .fiatSubmitted = true) :
    (current.stage = .ledgerPrepared ∧ current.direction = .onramp) ∨
      current.stage = .custodySubmitted ∨ current.stage = .finalityConfirmed := by
  cases stage : current.stage <;> simp_all [stageAllowsRecord, stageAllows]

theorem source_of_ledgerCommitted (allowed : stageAllowsRecord current .ledgerCommitted = true) :
    (current.stage = .fiatSubmitted ∧ current.direction = .offramp) ∨
      current.stage = .finalityConfirmed := by
  cases stage : current.stage <;> simp_all [stageAllowsRecord, stageAllows]

/-- The stages before the first external command. -/
def preparing (stage : ExecutionStage) : Bool :=
  stage = .received || stage = .screened || stage = .routed || stage = .liquidityReserved ||
    stage = .ledgerPrepared

theorem source_of_preparing (allowed : stageAllowsRecord current next = true)
    (early : preparing next = true) : preparing current.stage = true := by
  cases stage : current.stage <;> cases next <;>
    simp_all [stageAllowsRecord, stageAllows, preparing]

end

theorem Asks.source {call : StoreCall} {route : String} (asked : Asks record call next update route) :
    (∃ current, change call = some (current, next, update) ∧ current.stage = record.stage ∧
      stageAllowsRecord current next = true) ∨
    (change call = none ∧ (next = .settled ∨ next = .held)) := by
  cases asked with
  | advance _ current _ _ changes allowed matched =>
    exact .inl ⟨current, changes, matched.stage.symm, allowed⟩
  | resolve current owner authorization update =>
    refine .inr ⟨rfl, ?_⟩
    unfold resolutionStage
    split
    · exact .inl rfl
    · exact .inr rfl

/-! ## The stages of a log -/

/-- Where finality can have been confirmed when a saga stands at `stage`. -/
structure Staged (stages : List ExecutionStage) (stage : ExecutionStage) : Prop where
  current : stage ∈ stages
  early : preparing stage = true ∨ stage = .custodySubmitted → .finalityConfirmed ∉ stages
  custody : .finalityConfirmed ∈ stages → .custodySubmitted ∈ stages

/-- Where finality can have been confirmed, one stage later. -/
theorem Staged.step {stages : List ExecutionStage} {call : StoreCall}
    {next : ExecutionStage} {update : SagaUpdate} {route : String}
    (staged : Staged stages record.stage) (once : (stages ++ [next]).Nodup)
    (asked : Asks record call next update route) : Staged (stages ++ [next]) next := by
  have fresh : next ∉ stages := by
    intro present
    exact (List.nodup_append.mp once).2.2 next present next (List.mem_singleton.mpr rfl) rfl
  refine ⟨by simp, ?_, ?_⟩
  · intro early confirmed
    -- Neither kind of stage is the confirmation itself, so it lies in the past.
    have past : .finalityConfirmed ∈ stages := by
      rcases List.mem_append.mp confirmed with old | new
      · exact old
      · rw [← List.mem_singleton.mp new] at early
        exact absurd early (by decide)
    rcases asked.source with ⟨current, -, stage, allowed⟩ | ⟨-, rfl | rfl⟩
    · rcases early with preparingNext | rfl
      · have source := source_of_preparing allowed preparingNext
        rw [stage] at source
        exact staged.early (.inl source) past
      · exact fresh (staged.custody past)
    · exact absurd early (by decide)
    · exact absurd early (by decide)
  intro confirmed
  rcases mem_concat.mp confirmed with old | rfl
  · exact List.mem_append_left _ (staged.custody old)
  rcases asked.source with ⟨current, -, stage, allowed⟩ | ⟨-, impossible | impossible⟩
  · have source := source_of_finalityConfirmed allowed
    rw [stage] at source
    exact List.mem_append_left _ (source ▸ staged.current)
  · exact absurd impossible (by decide)
  · exact absurd impossible (by decide)

section
variable {calls : List (Nat × StoreCall)} {record : SettlementRecord}

theorem Log.staged (log : Log transitions events calls record)
    (once : (transitions.map TransitionRow.target).Nodup) :
    Staged (transitions.map TransitionRow.target) record.stage := by
  induction log with
  | reserved => exact ⟨by simp [transitionRow, reservedRecord], by simp [transitionRow], by
      simp [transitionRow]⟩
  | changed _ _ _ _ asked ih =>
    rw [List.map_append] at once ⊢
    exact (ih (List.nodup_append.mp once).1).step once asked
  | claimed _ _ ih => exact ih once

theorem Log.length (log : Log transitions events calls record) :
    (transitions.map TransitionRow.target).length = calls.length := by
  induction log with
  | reserved => rfl
  | changed _ _ _ _ _ ih => simpa using ih
  | claimed _ _ ih => exact ih

end

/-! ## The calls that break the order -/

section
variable (direction : Direction)

/-- The call pays an off-ramp out, or commits the ledger, before finality:
`before` are the stages entered so far. -/
def SkipsFinality (before : List ExecutionStage) (call : StoreCall) : Prop :=
  match change call with
  | some (current, .fiatSubmitted, _) =>
    direction = .offramp ∧ current.stage ≠ .finalityConfirmed
  | some (current, .ledgerCommitted, _) =>
    current.stage = .fiatSubmitted ∧ .finalityConfirmed ∉ before
  | _ => False

/-- A call on a record with the direction of the saga; the store does not compare it. -/
def OwnDirection (call : StoreCall) : Prop :=
  ∀ current next update, change call = some (current, next, update) → current.direction = direction

/-- The call pays an off-ramp out that has only been submitted to custody. -/
def PaysOutEarly (call : StoreCall) : Prop :=
  ∃ current update, change call = some (current, .fiatSubmitted, update) ∧
    direction = .offramp ∧ current.stage = .custodySubmitted

end

section
variable {direction : Direction} {stages : List ExecutionStage} {record : SettlementRecord}
  {call : StoreCall} {next : ExecutionStage} {update : SagaUpdate}

section
variable {route : String} (staged : Staged stages record.stage)
  (asked : Asks record call next update route)
include staged asked

/-- A call breaks the order exactly if it skips finality. -/
theorem inOrder_iff_not_skipsFinality :
    InOrder direction stages next ↔ ¬ SkipsFinality direction stages call := by
  rcases asked.source with ⟨current, changes, stage, allowed⟩ | ⟨changes, resolved⟩
  · unfold InOrder SkipsFinality
    rw [changes]
    cases next with
    | fiatSubmitted =>
      have confirmed : .finalityConfirmed ∈ stages ↔ current.stage = .finalityConfirmed := by
        constructor
        · intro past
          rcases source_of_fiatSubmitted allowed with ⟨prepared, -⟩ | custody | final
          · rw [stage] at prepared
            exact absurd past (staged.early (.inl (by rw [prepared]; rfl)))
          · rw [stage] at custody
            exact absurd past (staged.early (.inr custody))
          · exact final
        intro final
        rw [← final, stage]
        exact staged.current
      simp [confirmed]
    | ledgerCommitted =>
      have confirmed : current.stage ≠ .fiatSubmitted → .finalityConfirmed ∈ stages := by
        intro other
        have final := (source_of_ledgerCommitted allowed).resolve_left fun fiat => other fiat.1
        rw [← final, stage]
        exact staged.current
      by_cases fiat : current.stage = .fiatSubmitted
      · simp [fiat]
      · simp [fiat, confirmed fiat]
    | _ => simp
  unfold InOrder SkipsFinality
  rw [changes]
  rcases resolved with rfl | rfl
  · simp
  · simp

/-- On records with the saga's own direction only one step can break the order. -/
theorem inOrder_iff_not_paysOutEarly (own : OwnDirection direction call)
    (ordered : Ordered direction stages) :
    InOrder direction stages next ↔ ¬ PaysOutEarly direction call := by
  rw [inOrder_iff_not_skipsFinality staged asked, not_iff_not]
  unfold SkipsFinality PaysOutEarly
  rcases asked.source with ⟨current, changes, stage, allowed⟩ | ⟨changes, resolved⟩
  · have same := own current next update changes
    rw [changes]
    cases next with
    | fiatSubmitted =>
      have custody : direction = .offramp → (current.stage ≠ .finalityConfirmed ↔
          current.stage = .custodySubmitted) := by
        intro offramp
        rcases source_of_fiatSubmitted allowed with ⟨-, onramp⟩ | custody | final
        · exact absurd (onramp.symm.trans (same.trans offramp)) (by decide)
        · simp [custody]
        · simp [final]
      simp only [Option.some.injEq, Prod.mk.injEq, true_and]
      constructor
      · rintro ⟨offramp, other⟩
        exact ⟨current, update, ⟨rfl, rfl⟩, offramp, (custody offramp).mp other⟩
      · rintro ⟨_, _, ⟨rfl, rfl⟩, offramp, submitted⟩
        exact ⟨offramp, (custody offramp).mpr submitted⟩
    | ledgerCommitted =>
      simp only [Option.some.injEq, Prod.mk.injEq, reduceCtorEq, false_and, and_false, exists_false,
        iff_false, not_and, not_not]
      intro fiat
      -- The saga is an off-ramp that was paid out, which was in order.
      have offramp : direction = .offramp := by
        rcases source_of_ledgerCommitted allowed with ⟨-, offramp⟩ | final
        · exact same.symm.trans offramp
        · exact absurd (fiat.symm.trans final) (by decide)
      have submitted : ExecutionStage.fiatSubmitted ∈ stages := by
        rw [← fiat, stage]
        exact staged.current
      obtain ⟨i, found⟩ := List.mem_iff_getElem?.mp submitted
      exact List.mem_of_mem_take (ordered.paidOut offramp i found)
    | _ => simp
  · rw [changes]
    simp

end

end

def NoneSkips (direction : Direction) (stages : List ExecutionStage)
    (calls : List (Nat × StoreCall)) : Prop :=
  ∀ i entry, calls[i]? = some entry → ¬ SkipsFinality direction (stages.take i) entry.2

theorem noneSkips_concat {stages : List ExecutionStage} (length : stages.length = calls.length) :
    NoneSkips direction (stages ++ [next]) (calls ++ [entry]) ↔
      NoneSkips direction stages calls ∧ ¬ SkipsFinality direction stages entry.2 := by
  constructor
  · intro none
    refine ⟨?_, ?_⟩
    · intro i earlier found
      obtain ⟨bound, -⟩ := List.getElem?_eq_some_iff.mp found
      have ordered := none i earlier (by rw [List.getElem?_append_left bound, found])
      rwa [List.take_append_of_le_length (by omega)] at ordered
    · have ordered := none calls.length entry List.getElem?_concat_length
      rwa [← length, List.take_left] at ordered
  rintro ⟨before, last⟩ i earlier found
  rcases Nat.lt_or_ge i calls.length with bound | beyond
  · rw [List.getElem?_append_left bound] at found
    rw [List.take_append_of_le_length (by omega)]
    exact before i earlier found
  rw [List.getElem?_append_right beyond] at found
  obtain ⟨zero, same⟩ := List.getElem?_eq_some_iff.mp found
  have isLast : i = stages.length := by simp at zero; omega
  obtain rfl : entry = earlier := by simpa using same
  rw [isLast, List.take_left]
  exact last

section
variable {calls : List (Nat × StoreCall)} {record : SettlementRecord}

section
variable (log : Log transitions events calls record)
  (once : (transitions.map TransitionRow.target).Nodup)
include log once

theorem Log.ordered_iff_noneSkips :
    Ordered record.direction (transitions.map TransitionRow.target) ↔
      NoneSkips record.direction (transitions.map TransitionRow.target) calls := by
  induction log with
  | reserved caller intent digest now =>
    refine ⟨fun _ => ?_, fun _ => ⟨once, ?_, fun _ => ?_⟩⟩
    · intro i entry found
      obtain rfl := List.mem_singleton.mp (List.mem_of_getElem? found)
      exact id
    · intro i found
      exact absurd (List.mem_singleton.mp (List.mem_of_getElem? found)) (by simp [transitionRow])
    · intro i found
      exact absurd (List.mem_singleton.mp (List.mem_of_getElem? found)) (by simp [transitionRow])
  | changed _ _ _ log asked ih =>
    rw [List.map_append] at once ⊢
    have before := (List.nodup_append.mp once).1
    rw [List.map_singleton, ordered_concat once, noneSkips_concat log.length]
    exact and_congr (ih before) (inOrder_iff_not_skipsFinality (log.staged before) asked)
  | claimed _ _ ih => exact ih once

theorem Log.ordered_iff_nonePaysOutEarly
    (own : ∀ entry ∈ calls, OwnDirection record.direction entry.2) :
    Ordered record.direction (transitions.map TransitionRow.target) ↔
      ∀ entry ∈ calls, ¬ PaysOutEarly record.direction entry.2 := by
  induction log with
  | reserved caller intent digest now =>
    refine ⟨fun _ => ?_, fun _ => (Log.ordered_iff_noneSkips (.reserved caller intent digest now)
      once).mpr ?_⟩
    · rintro entry listed ⟨current, update, changes, -⟩
      obtain rfl := List.mem_singleton.mp listed
      cases changes
    intro i entry found
    obtain rfl := List.mem_singleton.mp (List.mem_of_getElem? found)
    exact id
  | changed caller now _ log asked ih =>
    rw [List.map_append] at once ⊢
    have before := (List.nodup_append.mp once).1
    have ownBefore := fun entry listed => own entry (List.mem_append_left _ listed)
    have ownNow := own _ List.mem_concat_self
    rw [List.map_singleton, ordered_concat once, List.forall_mem_append, List.forall_mem_singleton]
    refine Iff.trans (and_congr_right fun ordered => ?_) (and_congr_left' (ih before ownBefore))
    exact inOrder_iff_not_paysOutEarly (log.staged before) asked ownNow ordered
  | claimed _ _ ih => exact ih once own

end

end

/-- No saga enters a stage twice. -/
theorem entered_nodup (reached : postgres.Reaches emptyStore config)
    (present : row ∈ config.shared.db.sagas) : (entered config.shared row).Nodup := by
  have log := (recorded_of_reaches reached).log row present
  have announced : entered config.shared row =
      (outboxOf config.shared.db row.sagaKey).map OutboxRow.stage := by
    rw [entered, ← List.forall₂_eq_eq_eq, List.forall₂_map_left_iff, List.forall₂_map_right_iff]
    refine log.announced.imp ?_
    rintro transition event ⟨record, rfl, -, -, stage⟩
    exact stage.symm
  rw [announced]
  have keys := (guarded_of_reaches reached).wellFormed.stageKey
  have own : ((outboxOf config.shared.db row.sagaKey).map fun event =>
      (event.tenantID, event.sagaID, event.stage)).Nodup :=
    keys.sublist (List.filter_sublist.map _)
  apply List.Nodup.of_map fun stage => (row.record.tenantID, row.record.sagaID, stage)
  rw [List.map_map]
  refine (congrArg List.Nodup (List.map_congr_left ?_)).mp own
  intro event listed
  have same : (event.tenantID, event.sagaID) = row.sagaKey := by
    simpa using (List.mem_filter.mp listed).2
  simp only [SagaRow.sagaKey, Prod.mk.injEq] at same
  simp only [Function.comp, same.1, same.2]

/-- In every reachable state every saga has entered each stage once, and has
entered them in order exactly when no accepted call skipped finality. As long as
its callers present it with its own direction, the only such call is one that pays
an off-ramp out straight after its submission to custody. -/
theorem stages_are_in_order_iff {config : StoreConfig} (reached : postgres.Reaches emptyStore config)
    {row : SagaRow} (present : row ∈ config.shared.db.sagas) :
    (entered config.shared row).Nodup ∧
      (Ordered row.record.direction (entered config.shared row) ↔
        NoneSkips row.record.direction (entered config.shared row)
          (callsOf config.shared.accepted row.key)) ∧
      ((∀ entry ∈ callsOf config.shared.accepted row.key,
          OwnDirection row.record.direction entry.2) →
        (Ordered row.record.direction (entered config.shared row) ↔
          ∀ entry ∈ callsOf config.shared.accepted row.key,
            ¬ PaysOutEarly row.record.direction entry.2)) := by
  have once := entered_nodup reached present
  have log := (recorded_of_reaches reached).log row present
  exact ⟨once, log.ordered_iff_noneSkips once, log.ordered_iff_nonePaysOutEarly once⟩

/-! ## A payout before finality -/

/-- The calls by which one caller takes a saga from `record` through `stages`,
each on the record the previous one returned, starting as thread `i`. -/
def advances (record : SettlementRecord) (i : Nat) :
    List (ExecutionStage × SagaUpdate) → List (Action StoreCall SqlChoice StoreEvent)
  | [] => []
  | (next, update) :: rest =>
    .spawn (.advance record next update) ::
      (changeSteps i i ++ advances (recordWithUpdate record next update i) (i + 1) rest)

def payoutStages : List (ExecutionStage × SagaUpdate) :=
  [(.screened, {}), (.routed, { routeID := "route-1" }), (.liquidityReserved, {}),
    (.ledgerPrepared, { ledgerPendingID := 41 }),
    (.custodySubmitted, { custodyReference := "custody-1", blockchainTx := "tx-1" }),
    (.fiatSubmitted, { providerReference := "payout-1" }),
    (.ledgerCommitted, { ledgerTransferID := 42 })]

def unconfirmedPayout : List (Action StoreCall SqlChoice StoreEvent) :=
  .spawn (.reserve payoutIntent depositIntent.payloadSHA256) ::
    (reserveSteps 0 3 ++ advances payoutRecord 1 payoutStages)

theorem unconfirmedPayout_reaches :
    ∃ config row, postgres.Reaches emptyStore config ∧ row ∈ config.shared.db.sagas ∧
      row.record.direction = .offramp ∧
      entered config.shared row = .received :: payoutStages.map Prod.fst := by
  have played : ∃ config, postgres.Reaches emptyStore config ∧ ∃ row ∈ config.shared.db.sagas,
      row.record.direction = .offramp ∧
      entered config.shared row = .received :: payoutStages.map Prod.fst :=
    Machine.exists_of_replay unconfirmedPayout (by decide +kernel)
  obtain ⟨config, reached, row, facts⟩ := played
  exact ⟨config, row, reached, facts⟩

/-- The store accepts a payout, and the commit of its ledger transfer, although
finality was never recorded. -/
theorem payout_is_committed_before_finality :
    ∃ config row, postgres.Reaches emptyStore config ∧ row ∈ config.shared.db.sagas ∧
      row.record.direction = .offramp ∧
      entered config.shared row = .received :: payoutStages.map Prod.fst ∧
      ¬ Ordered .offramp (entered config.shared row) := by
  obtain ⟨config, row, reached, present, offramp, stages⟩ := unconfirmedPayout_reaches
  refine ⟨config, row, reached, present, offramp, stages, ?_⟩
  intro ordered
  have confirmed := ordered.committed 7 (by rw [stages]; rfl)
  rw [stages] at confirmed
  exact absurd confirmed (by decide)

/-- The payout is advanced past its finality. -/
theorem unconfirmed_payout_skips_finality :
    ∃ config row, postgres.Reaches emptyStore config ∧ row ∈ config.shared.db.sagas ∧
      ¬ NoneSkips row.record.direction (entered config.shared row)
        (callsOf config.shared.accepted row.key) := by
  obtain ⟨config, row, reached, present, offramp, stages⟩ := unconfirmedPayout_reaches
  refine ⟨config, row, reached, present, ?_⟩
  rw [← (stages_are_in_order_iff reached present).2.1]
  intro ordered
  have confirmed := ordered.committed 7 (by rw [stages]; rfl)
  rw [stages] at confirmed
  exact absurd confirmed (by decide)

end UmojaFlowOS.Settlement.PostgresSagaStore
