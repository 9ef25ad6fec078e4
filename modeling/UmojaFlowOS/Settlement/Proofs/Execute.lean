import UmojaFlowOS.Settlement.Proofs.CoordinatorContract

/-!
# `Execute` keeps the coordinator's contract

The contract is carried along the program text, one lemma for each Go function,
with the ports free to answer anything.
-/

namespace UmojaFlowOS.Settlement

open Go Interaction

/-! ## Histories that grow by one call -/

section
variable {intent : Intent} {record : SettlementRecord} {history later : History} {event : Call}
  {n : Nat}

theorem lastRecord_snoc (history : History) (event : Call) :
    lastRecord (history ++ [event]) = (answeredRecord event).or (lastRecord history) := by
  simp only [lastRecord, List.foldl_append, List.foldl_cons, List.foldl_nil]

theorem persisted_snoc (field : SagaUpdate → String) (history : History) (event : Call) :
    persisted field (history ++ [event]) =
      (acceptedUpdate event).elim (persisted field history)
        fun update => supplied (field update) (persisted field history) := by
  unfold persisted
  rw [List.filterMap_append, List.foldl_append]
  cases accepted : acceptedUpdate event <;> simp [accepted]

theorem forall_mem_snoc {holds : Call → Prop} :
    (∀ e ∈ history ++ [event], holds e) ↔ (∀ e ∈ history, holds e) ∧ holds event := by
  rw [List.forall_mem_append, List.forall_mem_singleton]

theorem Below.weaken (below : Below n history) (grows : n ≤ m) : Below m history :=
  fun event present => lt_of_lt_of_le (below event present) grows

theorem Below.snoc (below : Below n history) (grows : n ≤ m) (rank_lt : rank event.call < m) :
    Below m (history ++ [event]) :=
  forall_mem_snoc.mpr ⟨below.weaken grows, rank_lt⟩

theorem Below.fresh (below : Below n history) (above : n ≤ rank port) :
    rank port ≠ 0 → ∀ event ∈ history, rank event.call ≠ rank port :=
  fun _ event present => ne_of_lt (lt_of_lt_of_le (below event present) above)

theorem Owned.mono (owned : Owned intent history) (grows : history ⊆ later) : Owned intent later :=
  owned.imp fun _ present => grows present

section
variable (live : Live intent record history)
include live

theorem Live.snoc (silent : answeredRecord event = none) (succeeded : storeFailed event = false)
    (unmarked : isMarkUnknown event.call = false ∧ isMarkHeld event.call = false) :
    Live intent record (history ++ [event]) where
  owned := live.owned.mono (List.subset_append_left _ _)
  current := by rw [lastRecord_snoc, silent, Option.none_or, live.current]
  clean := forall_mem_snoc.mpr ⟨live.clean, succeeded⟩
  unmarked := forall_mem_snoc.mpr ⟨live.unmarked, unmarked⟩

theorem Live.advanced :
    Live intent next (history ++ [⟨.store (.advance record stage update), (next, none)⟩]) where
  owned := live.owned.mono (List.subset_append_left _ _)
  current := by
    rw [lastRecord_snoc]
    rfl
  clean := forall_mem_snoc.mpr ⟨live.clean, rfl⟩
  unmarked := forall_mem_snoc.mpr ⟨live.unmarked, rfl, rfl⟩

theorem Live.closable : Closable intent record history :=
  ⟨live.owned, live.current, fun event present => (live.unmarked event present).1⟩

theorem Live.advance_failed :
    Closable intent next
      (history ++ [⟨.store (.advance record stage update), (next, some err)⟩]) where
  owned := live.owned.mono (List.subset_append_left _ _)
  current := by
    rw [lastRecord_snoc]
    rfl
  unmarked := forall_mem_snoc.mpr ⟨live.closable.unmarked, rfl⟩

theorem Live.hold_failed :
    Closable intent record (history ++ [⟨.store (.markHeld record reason), some err⟩]) where
  owned := live.owned.mono (List.subset_append_left _ _)
  current := by
    rw [lastRecord_snoc]
    exact live.current
  unmarked := forall_mem_snoc.mpr ⟨live.closable.unmarked, rfl⟩

end

theorem Collected.mono (collected : Collected intent history fiat)
    (grows : history ⊆ later) : Collected intent later fiat :=
  ⟨grows collected.1, collected.2⟩

theorem PaidOut.mono (paid : PaidOut intent history fiat)
    (grows : history ⊆ later) : PaidOut intent later fiat :=
  ⟨grows paid.1, paid.2⟩

theorem FiatSettled.mono (settled : FiatSettled intent history fiat)
    (grows : history ⊆ later) : FiatSettled intent later fiat := by
  by_cases onramp : intent.direction = .onramp
  · simp only [FiatSettled, if_pos onramp] at settled ⊢
    exact settled.mono grows
  · simp only [FiatSettled, if_neg onramp] at settled ⊢
    exact settled.mono grows

theorem Submitted.mono (submitted : Submitted intent history custody)
    (grows : history ⊆ later) : Submitted intent later custody :=
  ⟨grows submitted.1, submitted.2⟩

theorem Finalised.mono (final : Finalised intent history custody)
    (grows : history ⊆ later) : Finalised intent later custody :=
  ⟨final.1.mono grows, grows final.2⟩

theorem Attested.mono (attested : Attested intent history att)
    (grows : history ⊆ later) : Attested intent later att :=
  ⟨grows attested.1, attested.2.1, grows attested.2.2⟩

variable [CaseTables]

theorem Screened.mono (screened : Screened intent history) (grows : history ⊆ later) :
    Screened intent later :=
  screened.imp fun _ given => ⟨grows given.1, given.2⟩

theorem Prepared.mono (prepared : Prepared intent history pending)
    (grows : history ⊆ later) : Prepared intent later pending :=
  ⟨grows prepared.1, prepared.2⟩

theorem Committed.mono (given : Committed intent history pending committed)
    (grows : history ⊆ later) : Committed intent later pending committed :=
  ⟨grows given.1, given.2⟩

end

/-! ## The ways out of an owned run -/

section
variable [CaseTables] {intent : Intent} {record : SettlementRecord} {history : History}

abbrev coordinatorContract (intent : Intent) : Contract ports History :=
  onHistory anyAnswer (coordinatorGuar intent)

/-- What every early exit of an owned run leaves. -/
structure Exited (intent : Intent) (history : History) (result : ProviderResult)
    (err : Option GoError) : Prop where
  owned : Owned intent history
  closed : Closed history
  unsettled : result.state ≠ .settled
  failed : err.isSome = true

theorem Exited.concluded
    (exited : Exited intent history result err) : Concluded intent history (result, err) :=
  .closed history (result, err) exited.owned exited.closed exited.unsettled

/-- Marking the saga unknown ends the run. -/
theorem unknown_meets (closable : Closable intent record history) :
    Meets (coordinatorContract intent) (fun history out => Exited intent history out.1 out.2)
      history (unknown record reason cause) := by
  refine meets_call_bind.mpr ⟨closable, fun answer => ?_⟩
  have owned := closable.owned.mono (List.subset_append_left history
    [⟨.store (.markUnknown record reason), answer⟩])
  have closed : Closed (history ++ [⟨.store (.markUnknown record reason), answer⟩]) :=
    ⟨history, record, reason, .inl ⟨answer, rfl⟩⟩
  cases answer with
  | none | some => exact ⟨owned, closed, nofun, rfl⟩

theorem hold_meets (live : Live intent record history) :
    Meets (coordinatorContract intent) (fun history out => Exited intent history out.1 out.2)
      history (hold record reason cause) := by
  refine meets_call_bind.mpr ⟨live, fun answer => ?_⟩
  cases answer with
  | none =>
    exact ⟨live.owned.mono (List.subset_append_left _ _),
      ⟨history, record, reason, .inr rfl⟩, nofun, rfl⟩
  | some err => exact unknown_meets live.hold_failed

theorem unknown_concluded (closable : Closable intent record history) :
    Meets (coordinatorContract intent) (Concluded intent) history (unknown record reason cause) :=
  (unknown_meets closable).mono fun _ _ exited => exited.concluded

theorem hold_concluded (live : Live intent record history) :
    Meets (coordinatorContract intent) (Concluded intent) history (hold record reason cause) :=
  (hold_meets live).mono fun _ _ exited => exited.concluded

theorem unknownEffects_meets (closable : Closable intent record history) :
    Meets (coordinatorContract intent) (fun history out => Exited intent history out.1 out.2.2)
      history (unknownEffects record reason cause) :=
  (unknown_meets closable).bind fun _ _ exited => exited

/-! ## One call of an owned run -/

def isEffect : Port → Bool
  | .now => false
  | .store _ => false
  | _ => true

/-- The run is live and has issued no command of rank `n` or more. -/
structure Reached (intent : Intent) (n : Nat) (record : SettlementRecord) (history : History) :
    Prop where
  live : Live intent record history
  below : Below n history

omit [CaseTables] in
theorem Reached.weaken (reached : Reached intent n record history) (grows : n ≤ m) :
    Reached intent m record history :=
  ⟨reached.live, reached.below.weaken grows⟩

/-- What a proof needs to know of a history that got one more answer. -/
structure Follows (history : History) (event : Call) (later : History) : Prop where
  grows : history ⊆ later
  last : event ∈ later
  persisted : ∀ field, persisted field later = (acceptedUpdate event).elim
    (persisted field history) fun update => supplied (field update) (persisted field history)

omit [CaseTables] in
theorem follows_snoc (history : History) (event : Call) :
    Follows history event (history ++ [event]) :=
  ⟨List.subset_append_left _ _, by simp, fun field => persisted_snoc field history event⟩

theorem coordinatorGuar_of_isEffect (effect : isEffect port = true) :
    coordinatorGuar intent history port ↔ (∃ record, Live intent record history) ∧
      (rank port ≠ 0 → ∀ event ∈ history, rank event.call ≠ rank port) ∧
      effectGuar intent history port := by
  cases port <;> first | rfl | cases effect

omit [CaseTables] in
theorem Live.effect (effect : isEffect port = true) (answer : port.Answer)
    (live : Live intent record history) : Live intent record (history ++ [⟨port, answer⟩]) := by
  cases port <;> first | exact live.snoc rfl rfl ⟨rfl, rfl⟩ | cases effect

/-- A command whose rank is not yet reached may be issued, and whatever it
answers the run goes on with that rank reached. -/
theorem effect_meets {α : Type} {post : History → α → Prop} {port : Port}
    {rest : port.Answer → Saga α} {n m : Nat} (reached : Reached intent n record history)
    (effect : isEffect port = true) (above : n ≤ rank port ∨ rank port = 0)
    (grows : n ≤ m) (rank_lt : rank port < m) (allowed : effectGuar intent history port)
    (next : ∀ answer later, Follows history ⟨port, answer⟩ later →
      Reached intent m record later →
      Meets (coordinatorContract intent) post later (rest answer)) :
    Meets (coordinatorContract intent) post history (call port >>= rest) := by
  refine meets_call_bind.mpr ⟨(coordinatorGuar_of_isEffect effect).mpr
    ⟨⟨record, reached.live⟩, fun ranked => ?_, allowed⟩, fun answer => ?_⟩
  · exact reached.below.fresh (above.resolve_right ranked) ranked
  · exact next answer _ (follows_snoc _ _)
      ⟨reached.live.effect effect answer, reached.below.snoc grows rank_lt⟩

/-- A stage transition: on success the run goes on with the answered record, on
failure `unknown` is given the record of the failed answer. -/
theorem advance_meets {α : Type} {post : History → α → Prop} {n : Nat} {stage : ExecutionStage}
    {update : SagaUpdate} {rest : SettlementRecord × Option GoError → Saga α}
    (reached : Reached intent n record history) (positive : 0 < n)
    (named : update.ledgerPendingID ≠ 0 → ∃ pending, Prepared intent history pending ∧
      ledgerFactID pending = .ok update.ledgerPendingID)
    (fails : ∀ {next err later}, Closable intent next later →
      Meets (coordinatorContract intent) post later (rest (next, some err)))
    (succeeds : ∀ next later,
      Follows history ⟨.store (.advance record stage update), (next, none)⟩ later →
      Reached intent n next later →
      Meets (coordinatorContract intent) post later (rest (next, none))) :
    Meets (coordinatorContract intent) post history (advance record stage update >>= rest) := by
  refine meets_call_bind.mpr ⟨⟨reached.live, named⟩, ?_⟩
  rintro ⟨next, _ | err⟩
  · exact succeeds next _ (follows_snoc _ _)
      ⟨reached.live.advanced, reached.below.snoc le_rfl positive⟩
  · exact fails reached.live.advance_failed

/-! ## The effect sequences -/

structure Admitted (intent : Intent) (pending : LedgerFact) (history : History) : Prop where
  screened : Screened intent history
  prepared : Prepared intent history pending

theorem Admitted.mono (admitted : Admitted intent pending history) (grows : history ⊆ later) :
    Admitted intent pending later :=
  ⟨admitted.screened.mono grows, admitted.prepared.mono grows⟩

structure EffectsDone (intent : Intent) (pending : LedgerFact) (history : History)
    (record : SettlementRecord) (outcome : ProviderResult) : Prop where
  reached : Reached intent 6 record history
  admitted : Admitted intent pending history
  fiat : ∃ fiat, FiatSettled intent history fiat ∧ fiat.reference = outcome.reference
  custody : ∃ custody, Finalised intent history custody ∧
    custody.blockchainTx = outcome.blockchainTx
  tx : persisted SagaUpdate.blockchainTx history = outcome.blockchainTx

def EffectsPost (intent : Intent) (pending : LedgerFact) (history : History) (out : Effects) :
    Prop :=
  (out.2.2 = none → EffectsDone intent pending history out.2.1 out.1) ∧
    (out.2.2.isSome = true → Exited intent history out.1 out.2.2)

theorem Exited.effects
    (exited : Exited intent history out.1 out.2.2) : EffectsPost intent pending history out := by
  refine ⟨fun done => ?_, fun _ => exited⟩
  have failed := exited.failed
  rw [done] at failed
  cases failed

variable {pending : LedgerFact}

theorem unknownEffects_post (closable : Closable intent record history) :
    Meets (coordinatorContract intent) (EffectsPost intent pending)
      history (unknownEffects record reason cause) :=
  (unknownEffects_meets closable).mono fun _ _ exited => exited.effects

theorem handlePreCustodyFailure_meets (reached : Reached intent 3 record history)
    (prepared : Prepared intent history pending)
    (result : ProviderResult) (label : String) (cause : Option GoError)
    (collected : (⟨.collect (stageIntent intent "fiat_collect"), (result, cause)⟩ : Call) ∈
      history) :
    Meets (coordinatorContract intent) (EffectsPost intent pending)
      history (handlePreCustodyFailure intent record pending result label cause) := by
  unfold handlePreCustodyFailure
  split
  case isFalse => exact unknownEffects_post reached.live.closable
  case isTrue proved =>
    obtain ⟨rfl, failed, retryable⟩ := proved
    refine effect_meets (m := 9) reached rfl (.inl (by decide : 3 ≤ 8)) (by decide)
      (by decide : 8 < 9) ⟨rfl, prepared, reached.below, result, collected, failed, retryable⟩ ?_
    rintro (_ | err) later - reached
    · exact (hold_meets reached.live).bind fun _ _ exited => exited.effects
    · exact unknownEffects_post reached.live.closable

section
variable (reached : Reached intent 2 record history) (admitted : Admitted intent pending history)
include reached admitted

/-- On-ramp: fiat is collected, then custody transfers, then finality. -/
theorem executeOnrampEffects_meets (onramp : intent.direction = .onramp) :
    Meets (coordinatorContract intent) (EffectsPost intent pending)
      history (executeOnrampEffects intent record pending) := by
  have stage : custodyStage intent = "custody_onramp" := if_pos onramp
  refine effect_meets (m := 3) reached rfl (.inl le_rfl) (by decide) (by decide : 2 < 3)
    ⟨rfl, onramp⟩ ?_
  rintro ⟨fiat, err⟩ history₁ step₁ reached
  dsimp only
  split
  · exact handlePreCustodyFailure_meets reached (admitted.prepared.mono step₁.grows) _ _ _ step₁.last
  rename_i collected
  obtain ⟨rfl, fiatSettled⟩ : err = none ∧ settledFact fiat = true := by simpa using collected
  have collected : Collected intent history₁ fiat := ⟨step₁.last, fiatSettled⟩
  refine advance_meets reached (by decide) nofun unknownEffects_post ?_
  intro record₂ history₂ step₂ reached
  have collected := collected.mono step₂.grows
  refine effect_meets (m := 4) reached rfl (.inl le_rfl) (by decide) (by decide : 3 < 4)
    ⟨by rw [stage], fun _ => ⟨fiat, collected⟩⟩ ?_
  rintro ⟨custody, err⟩ history₃ step₃ reached
  split
  · exact unknownEffects_post reached.live.closable
  rename_i submitted
  obtain ⟨rfl, custodySettled, txGiven⟩ :
      err = none ∧ settledFact custody = true ∧ trimSpace custody.blockchainTx ≠ "" := by
    simpa using submitted
  have submitted : Submitted intent history₃ custody :=
    ⟨by rw [stage]; exact step₃.last, custodySettled, txGiven⟩
  refine advance_meets reached (by decide) nofun unknownEffects_post ?_
  intro record₄ history₄ step₄ reached
  have submitted := submitted.mono step₄.grows
  refine effect_meets (m := 5) reached rfl (.inl le_rfl) (by decide) (by decide : 4 < 5)
    ⟨rfl, custody, submitted, rfl⟩ ?_
  rintro ⟨final, err⟩ history₅ step₅ reached
  split
  · exact unknownEffects_post reached.live.closable
  rename_i finalised
  obtain ⟨rfl, rfl⟩ : err = none ∧ final = true := by simpa using finalised
  refine advance_meets reached (by decide) nofun unknownEffects_post ?_
  intro record₆ history₆ step₆ reached
  have collected := ((collected.mono step₃.grows).mono step₄.grows).mono step₅.grows
  refine ⟨fun _ => ⟨reached.weaken (by decide), ?_, ⟨fiat, ?_, rfl⟩, ⟨custody, ?_, rfl⟩, ?_⟩, nofun⟩
  · exact ((((admitted.mono step₁.grows).mono step₂.grows).mono step₃.grows).mono
      step₄.grows).mono step₅.grows |>.mono step₆.grows
  · rw [FiatSettled, if_pos onramp]
    exact collected.mono step₆.grows
  · exact Finalised.mono ⟨submitted.mono step₅.grows, step₅.last⟩ step₆.grows
  · rw [step₆.persisted, step₅.persisted, step₄.persisted]
    exact supplied_of_ne (ne_empty_of_trimSpace_ne txGiven) _

/-- Off-ramp: custody redeems, finality is confirmed, then fiat is paid out. -/
theorem executeOfframpEffects_meets (offramp : intent.direction ≠ .onramp) :
    Meets (coordinatorContract intent) (EffectsPost intent pending)
      history (executeOfframpEffects intent record) := by
  have stage : custodyStage intent = "custody_offramp" := if_neg offramp
  refine effect_meets (m := 4) reached rfl (.inl (by decide : 2 ≤ 3)) (by decide)
    (by decide : 3 < 4) ⟨by rw [stage], fun onramp => absurd onramp offramp⟩ ?_
  rintro ⟨custody, err⟩ history₁ step₁ reached
  dsimp only
  split
  · exact unknownEffects_post reached.live.closable
  rename_i submitted
  obtain ⟨rfl, custodySettled, txGiven⟩ :
      err = none ∧ settledFact custody = true ∧ trimSpace custody.blockchainTx ≠ "" := by
    simpa using submitted
  have submitted : Submitted intent history₁ custody :=
    ⟨by rw [stage]; exact step₁.last, custodySettled, txGiven⟩
  refine advance_meets reached (by decide) nofun unknownEffects_post ?_
  intro record₂ history₂ step₂ reached
  have submitted := submitted.mono step₂.grows
  refine effect_meets (m := 5) reached rfl (.inl le_rfl) (by decide) (by decide : 4 < 5)
    ⟨rfl, custody, submitted, rfl⟩ ?_
  rintro ⟨final, err⟩ history₃ step₃ reached
  split
  · exact unknownEffects_post reached.live.closable
  rename_i finalised
  obtain ⟨rfl, rfl⟩ : err = none ∧ final = true := by simpa using finalised
  have finalised : Finalised intent history₃ custody := ⟨submitted.mono step₃.grows, step₃.last⟩
  refine advance_meets reached (by decide) nofun unknownEffects_post ?_
  intro record₄ history₄ step₄ reached
  have finalised := finalised.mono step₄.grows
  refine effect_meets (m := 6) reached rfl (.inl le_rfl) (by decide) (by decide : 5 < 6)
    ⟨rfl, offramp, custody, finalised⟩ ?_
  rintro ⟨fiat, err⟩ history₅ step₅ reached
  split
  · exact unknownEffects_post reached.live.closable
  rename_i paid
  obtain ⟨rfl, fiatSettled⟩ : err = none ∧ settledFact fiat = true := by simpa using paid
  have paid : PaidOut intent history₅ fiat := ⟨step₅.last, fiatSettled⟩
  refine advance_meets reached (by decide) nofun unknownEffects_post ?_
  intro record₆ history₆ step₆ reached
  refine ⟨fun _ => ⟨reached, ?_, ⟨fiat, ?_, rfl⟩, ⟨custody, ?_, rfl⟩, ?_⟩, nofun⟩
  · exact ((((admitted.mono step₁.grows).mono step₂.grows).mono step₃.grows).mono
      step₄.grows).mono step₅.grows |>.mono step₆.grows
  · rw [FiatSettled, if_neg offramp]
    exact paid.mono step₆.grows
  · exact (finalised.mono step₅.grows).mono step₆.grows
  · rw [step₆.persisted, step₅.persisted, step₄.persisted, step₃.persisted, step₂.persisted]
    exact supplied_of_ne (ne_empty_of_trimSpace_ne txGiven) _

theorem executeEffects_meets :
    Meets (coordinatorContract intent) (EffectsPost intent pending)
      history (executeEffects intent record pending) := by
  unfold executeEffects
  split
  case isTrue onramp => exact executeOnrampEffects_meets reached admitted onramp
  case isFalse offramp => exact executeOfframpEffects_meets reached admitted offramp

end

/-! ## The whole run -/

omit [CaseTables] in
theorem FiatSettled.settledFact
    (settled : FiatSettled intent history fiat) : settledFact fiat = true := by
  by_cases onramp : intent.direction = .onramp
  · rw [FiatSettled, if_pos onramp] at settled
    exact settled.2
  · rw [FiatSettled, if_neg onramp] at settled
    exact settled.2

omit [CaseTables] in
theorem FiatSettled.reference_ne_empty
    (settled : FiatSettled intent history fiat) : fiat.reference ≠ "" := by
  have fact := settled.settledFact
  exact ne_empty_of_trimSpace_ne (by simpa using (Bool.and_eq_true_iff.mp fact).2)

/-- Commit, attestation and the settled stage, with the evidence of the run. -/
theorem settleEffects_meets (done : EffectsDone intent pending history record outcome) :
    Meets (coordinatorContract intent) (Concluded intent) history
      (settleEffects intent (intentPayloadDigest intent) record pending outcome) := by
  obtain ⟨reached, admitted, ⟨fiat, fiatSettled, sameReference⟩, ⟨custody, finalised, sameTx⟩, tx⟩ :=
    done
  refine effect_meets (m := 7) reached rfl (.inl le_rfl) (by decide) (by decide : 6 < 7)
    ⟨rfl, admitted.prepared, reached.below, ⟨fiat, fiatSettled⟩, custody, finalised⟩ ?_
  rintro ⟨committed, err⟩ history₁ step₁ reached
  dsimp only
  split
  · exact unknown_concluded reached.live.closable
  rename_i answered
  obtain rfl : err = none := by simpa using answered
  split
  · exact unknown_concluded reached.live.closable
  rename_i valid
  have commitment : Committed intent history₁ pending committed :=
    ⟨step₁.last, Option.eq_none_iff_forall_ne_some.mpr valid⟩
  split
  · exact unknown_concluded reached.live.closable
  refine advance_meets reached (by decide) nofun unknown_concluded ?_
  intro record₂ history₂ step₂ reached
  have commitment := commitment.mono step₂.grows
  refine effect_meets (m := 8) reached rfl (.inl le_rfl) (by decide) (by decide : 7 < 8)
    ⟨rfl, rfl, pending, committed, commitment⟩ ?_
  rintro ⟨att, err⟩ history₃ step₃ reached
  split
  · exact unknown_concluded reached.live.closable
  rename_i attested
  obtain ⟨rfl, sameDigest, -⟩ : err = none ∧ att.digest = intentPayloadDigest intent ∧
      trimSpace att.evidenceID ≠ "" := by simpa using attested
  refine effect_meets (m := 8) reached rfl (.inr rfl) le_rfl (by decide : 0 < 8) sameDigest ?_
  rintro ⟨verified, err⟩ history₄ step₄ reached
  split
  · exact unknown_concluded reached.live.closable
  rename_i answered
  obtain ⟨rfl, rfl⟩ : err = none ∧ verified = true := by simpa using answered
  have attested : Attested intent history₄ att :=
    ⟨step₄.grows step₃.last, sameDigest, step₄.last⟩
  refine advance_meets reached (by decide) nofun unknown_concluded ?_
  intro record₅ history₅ step₅ reached
  simp only [Option.isSome_none, Bool.false_eq_true, if_false]
  split
  · exact unknown_concluded reached.live.closable
  refine advance_meets reached (by decide) nofun unknown_concluded ?_
  intro record₆ history₆ step₆ reached
  have grows : history₃ ⊆ history₆ :=
    List.Subset.trans step₄.grows (List.Subset.trans step₅.grows step₆.grows)
  have grows' : history ⊆ history₆ :=
    List.Subset.trans step₁.grows (List.Subset.trans step₂.grows
      (List.Subset.trans step₃.grows grows))
  refine .settled _ _ reached.live.owned ⟨?_, ⟨pending, committed, ?_, ?_⟩, ⟨fiat, ?_, sameReference⟩,
    ⟨custody, ?_, sameTx⟩, ⟨att, ?_⟩, ⟨record₅, _, record₆, step₆.last⟩⟩ ?_ ?_
  · exact admitted.screened.mono grows'
  · exact admitted.prepared.mono grows'
  · exact (commitment.mono step₃.grows).mono grows
  · exact fiatSettled.mono grows'
  · exact finalised.mono grows'
  · exact (attested.mono step₅.grows).mono step₆.grows
  · rw [step₆.persisted, step₅.persisted, step₄.persisted, step₃.persisted, step₂.persisted,
      step₁.persisted]
    exact tx
  · rw [step₆.persisted]
    exact supplied_of_ne (sameReference ▸ fiatSettled.reference_ne_empty) _

/-- Screening, route and liquidity precede the pending transfer. -/
theorem admitIntent_meets (reached : Reached intent 1 record history)
    (continues : ∀ record pending later, Reached intent 2 record later →
      Admitted intent pending later →
      Meets (coordinatorContract intent) (Concluded intent) later (effects record pending)) :
    Meets (coordinatorContract intent) (Concluded intent) history
      (admitIntent intent record effects) := by
  refine effect_meets (m := 1) reached rfl (.inr rfl) le_rfl (by decide : 0 < 1) rfl ?_
  rintro ⟨screen, err⟩ history₁ step₁ reached
  dsimp only
  split
  · exact hold_concluded reached.live
  rename_i answered
  obtain rfl : err = none := by simpa using answered
  split
  · exact hold_concluded reached.live
  rename_i clear
  have screened : Screened intent history₁ := ⟨screen, step₁.last, by simpa using clear⟩
  refine advance_meets reached (by decide) nofun unknown_concluded ?_
  intro record₂ history₂ step₂ reached
  refine effect_meets (m := 1) reached rfl (.inr rfl) le_rfl (by decide : 0 < 1) rfl ?_
  rintro ⟨route, err⟩ history₃ step₃ reached
  split
  · exact hold_concluded reached.live
  refine advance_meets reached (by decide) nofun unknown_concluded ?_
  intro record₄ history₄ step₄ reached
  refine effect_meets (m := 1) reached rfl (.inr rfl) le_rfl (by decide : 0 < 1) rfl ?_
  rintro ⟨liquidity, err⟩ history₅ step₅ reached
  split
  · exact hold_concluded reached.live
  refine advance_meets reached (by decide) nofun unknown_concluded ?_
  intro record₆ history₆ step₆ reached
  have screened := ((((screened.mono step₂.grows).mono step₃.grows).mono step₄.grows).mono
    step₅.grows).mono step₆.grows
  refine effect_meets (m := 2) reached rfl (.inl le_rfl) (by decide) (by decide : 1 < 2)
    ⟨rfl, screened⟩ ?_
  rintro ⟨pending, err⟩ history₇ step₇ reached
  split
  · exact unknown_concluded reached.live.closable
  rename_i answered
  obtain rfl : err = none := by simpa using answered
  split
  · exact unknown_concluded reached.live.closable
  rename_i valid
  have prepared : Prepared intent history₇ pending :=
    ⟨step₇.last, Option.eq_none_iff_forall_ne_some.mpr valid⟩
  split
  · exact unknown_concluded reached.live.closable
  rename_i pendingID identified
  refine advance_meets reached (by decide) (fun _ => ⟨pending, prepared, identified⟩)
    unknown_concluded ?_
  intro record₈ history₈ step₈ reached
  exact continues record₈ pending history₈ reached
    ⟨(screened.mono step₇.grows).mono step₈.grows, prepared.mono step₈.grows⟩

theorem executeOwned_meets (reached : Reached intent 1 record history) :
    Meets (coordinatorContract intent) (Concluded intent) history
      (executeOwned intent record (intentPayloadDigest intent)) := by
  refine admitIntent_meets reached fun record pending history reached admitted => ?_
  refine (executeEffects_meets reached admitted).bind ?_
  rintro history ⟨outcome, record, _ | err⟩ ⟨done, exited⟩
  · exact settleEffects_meets (done rfl)
  · exact (exited rfl).concluded

/-- Every run of `Execute` keeps the coordinator's contract, whatever the ports answer. -/
theorem execute_meets (c : Coordinator) (intent : Intent) :
    Meets (coordinatorContract intent) (Concluded intent) [] (execute c intent) := by
  refine meets_call_bind.mpr ⟨rfl, fun now => ?_⟩
  split
  · exact .refused now _ nofun
  rename_i valid
  split
  · exact .refused now _ nofun
  refine meets_call_bind.mpr ⟨⟨rfl, rfl, now, rfl, Option.eq_none_iff_forall_ne_some.mpr valid⟩, ?_⟩
  rintro ⟨record, owned, _ | err⟩
  case some => exact .unavailable now record owned err _ nofun
  cases owned with
  | false => exact .replayed now record
  | true =>
    refine executeOwned_meets ⟨⟨⟨record, by simp⟩, rfl, ?_, ?_⟩, ?_⟩
    · simp [storeFailed]
    · simp [isMarkUnknown, isMarkHeld]
    · simp [Below, rank]

end

end UmojaFlowOS.Settlement
