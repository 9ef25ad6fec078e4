import UmojaFlowOS.Multirail.UnknownStore

/-!
# The delay before a reconciliation is tried again

`ReconciliationWorker.retryDelay` over Go's own `int` and `time.Duration`, both `int64`,
whose products wrap. The worker's model computes with whole integers; no doubling leaves
the range of `int64`, so the two agree.
-/

namespace UmojaFlowOS.Multirail

/-- The loop of `retryDelay` over `int64`: `base *= 2` wraps (unknown_reconciliation.go:131-133). -/
def doubled64 : Nat → Int64 → Int64
  | 0, base => base
  | left + 1, base => if base < 1800000000000 then doubled64 left (base * 2) else base

/-- The delay doubled by `retryDelay`: 30 seconds for want of a configured one
(unknown_reconciliation.go:127-130). -/
def baseDelay (retryAfter : Int64) : Int64 :=
  if retryAfter ≤ 0 then 30000000000 else retryAfter

/-- `retryDelay` over `int64` (unknown_reconciliation.go:126-138). A negative attempt runs no
round of the loop. -/
def retryDelay64 (retryAfter attempt : Int64) : Int64 :=
  let base := doubled64 attempt.toInt.toNat (baseDelay retryAfter)
  if base > 1800000000000 then 1800000000000 else base

theorem toInt_baseDelay (retryAfter : Int64) : (baseDelay retryAfter).toInt =
    if retryAfter.toInt ≤ 0 then 30000000000 else retryAfter.toInt := by
  have nonpos : retryAfter ≤ 0 ↔ retryAfter.toInt ≤ 0 := Int64.le_iff_toInt_le
  by_cases absent : retryAfter ≤ 0
  · simp [baseDelay, absent, nonpos.mp absent]
  · simp [baseDelay, absent, nonpos.not.mp absent]

theorem baseDelay_pos (retryAfter : Int64) : 0 < (baseDelay retryAfter).toInt := by
  rw [toInt_baseDelay]
  split <;> omega

/-- Below half an hour the product by two is far inside `int64`. -/
theorem toInt_mul_two {base : Int64} (pos : 0 < base.toInt) (below : base.toInt < halfHour) :
    (base * 2).toInt = base.toInt * 2 := by
  rw [Int64.toInt_mul]
  simp only [halfHour] at below
  apply Int.bmod_eq_of_le
  · simp
    omega
  · simp
    omega

/-- No round overflows: after any number of them, the wrapping loop holds what the loop over
whole integers does. The induction carries that the delay is positive. -/
theorem toInt_doubled64 (rounds : Nat) (pos : 0 < base.toInt) :
    (doubled64 rounds base).toInt = doubled rounds base.toInt := by
  induction rounds generalizing base with
  | zero => rfl
  | succ rounds ih =>
    have below : base < 1800000000000 ↔ base.toInt < halfHour := Int64.lt_iff_toInt_lt
    by_cases small : base.toInt < halfHour
    · have twice := toInt_mul_two pos small
      simp only [doubled64, doubled, below, small, if_true]
      rw [ih (by omega), twice]
    · simp only [doubled64, doubled, below, small, if_false]

/-- The loop stops at the first delay of half an hour or more: cut at half an hour, it is the
delay doubled once a round. -/
theorem min_doubled (rounds : Nat) {base : Int} (pos : 0 < base) :
    min (doubled rounds base) halfHour = min halfHour (base * 2 ^ rounds) := by
  induction rounds generalizing base with
  | zero => simp [doubled, min_comm]
  | succ rounds ih =>
    by_cases small : base < halfHour
    · simp only [doubled, small, if_true]
      rw [ih (by omega), pow_succ', mul_assoc]
    · have grows : base ≤ base * 2 ^ (rounds + 1) :=
        le_mul_of_one_le_right pos.le (one_le_pow₀ (by decide))
      have capped : halfHour ≤ base := not_lt.mp small
      simp only [doubled, small, if_false]
      rw [min_eq_right capped, min_eq_left (capped.trans grows)]

/-- Cut at half an hour, the wrapping loop gives the exact doubling. -/
theorem toInt_retryDelay64 (retryAfter attempt : Int64) :
    (retryDelay64 retryAfter attempt).toInt =
      min halfHour ((baseDelay retryAfter).toInt * 2 ^ attempt.toInt.toNat) := by
  have pos := baseDelay_pos retryAfter
  have above (delay : Int64) : delay > 1800000000000 ↔ halfHour < delay.toInt :=
    Int64.lt_iff_toInt_lt
  rw [← min_doubled _ pos, ← toInt_doubled64 _ pos]
  simp only [retryDelay64, above]
  split
  case isTrue late =>
    rw [min_eq_right late.le]
    rfl
  case isFalse within => rw [min_eq_left (not_lt.mp within)]

/-- What the reconciler of the model adds to the clock is what Go computes. -/
theorem retryDelay_eq_toInt (w : ReconciliationWorker) (retryAfter attempt : Int64) :
    { w with retryAfter := retryAfter.toInt }.retryDelay attempt.toInt.toNat =
      (retryDelay64 retryAfter attempt).toInt := by
  have pos := baseDelay_pos retryAfter
  rw [toInt_retryDelay64, ← min_doubled _ pos, toInt_baseDelay]
  rfl

/-- For every configured delay and every attempt, `retryDelay` is positive, at most half an
hour, no shorter at a later attempt, and the smaller of half an hour and the base delay doubled
once an attempt; no round of its loop overflows. -/
theorem retry_delay_is_capped_doubling (retryAfter attempt : Int64) :
    0 < retryDelay64 retryAfter attempt ∧
      (retryDelay64 retryAfter attempt).toInt ≤ halfHour ∧
      (∀ later, attempt ≤ later →
        retryDelay64 retryAfter attempt ≤ retryDelay64 retryAfter later) ∧
      (retryDelay64 retryAfter attempt).toInt =
        min halfHour ((baseDelay retryAfter).toInt * 2 ^ attempt.toInt.toNat) ∧
      ∀ rounds, (doubled64 rounds (baseDelay retryAfter)).toInt =
        doubled rounds (baseDelay retryAfter).toInt := by
  have pos := baseDelay_pos retryAfter
  have value := toInt_retryDelay64 retryAfter attempt
  refine ⟨?positive, ?bounded, ?monotone, value, fun rounds => toInt_doubled64 rounds pos⟩
  case positive =>
    rw [Int64.lt_iff_toInt_lt, value]
    exact lt_min (by decide) (Int.mul_pos pos (by positivity))
  case bounded =>
    rw [value]
    exact min_le_left ..
  case monotone =>
    intro later after
    rw [Int64.le_iff_toInt_le] at after ⊢
    rw [value, toInt_retryDelay64]
    apply min_le_min_left
    apply mul_le_mul_of_nonneg_left _ pos.le
    exact pow_le_pow_right₀ (by decide) (Int.toNat_le_toNat after)

end UmojaFlowOS.Multirail
