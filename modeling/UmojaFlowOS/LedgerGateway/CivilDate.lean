import Mathlib.Data.Nat.Find

/-!
# Dates of the ledger gateway

`civil_from_days` (`services/ledger-gateway/src/main.rs:93-104`) against the proleptic Gregorian
calendar. The code counts days from 1 March of the year 0, in eras of 400 years.
-/

namespace UmojaFlowOS.LedgerGateway

structure CivilDate where
  year : Int
  month : Nat
  day : Nat
  deriving DecidableEq

/-! ## The calendar -/

def leap (year : Int) : Bool := year % 4 = 0 && (year % 100 ≠ 0 || year % 400 = 0)

def monthLength (leap : Bool) (month : Nat) : Nat :=
  if month = 2 then 28 + leap.toNat else if month ∈ [4, 6, 9, 11] then 30 else 31

namespace CivilDate

def Valid (date : CivilDate) : Prop :=
  1 ≤ date.month ∧ date.month ≤ 12 ∧ 1 ≤ date.day ∧
    date.day ≤ monthLength (leap date.year) date.month

def next (date : CivilDate) : CivilDate :=
  if date.day < monthLength (leap date.year) date.month then { date with day := date.day + 1 }
  else if date.month < 12 then ⟨date.year, date.month + 1, 1⟩
  else ⟨date.year + 1, 1, 1⟩

end CivilDate

/-! ## The code -/

def eraOf (z : Int) : Int := (if z ≥ 0 then z else z - 146096).tdiv 146097

def yearOfEra (doe : Nat) : Nat := (doe - doe / 1460 + doe / 36524 - doe / 146096) / 365

def yearStart (yoe : Nat) : Nat := 365 * yoe + yoe / 4 - yoe / 100

def monthDay (doy : Nat) : Nat × Nat :=
  let mp := (5 * doy + 2) / 153
  (if mp < 10 then mp + 3 else mp - 9, doy - (153 * mp + 2) / 5 + 1)

def dateInYear (y : Int) (doy : Nat) : CivilDate :=
  let (m, d) := monthDay doy
  ⟨if m ≤ 2 then y + 1 else y, m, d⟩

/-- `civil_from_days`. Days and years are `i64`, the rest is unsigned. -/
def civilFromDays (days : Int) : CivilDate :=
  let z := days + 719468
  let era := eraOf z
  let doe := (z - era * 146097).toNat
  let yoe := yearOfEra doe
  dateInYear (yoe + era * 400) (doe - yearStart yoe)

/-! ## Years of an era -/

/-- The year that starts in March has 366 days if the next calendar year is a leap year. -/
def yearLength (yoe : Nat) : Nat := 365 + (leap (yoe + 1)).toNat

theorem leap_era (year era : Int) : leap (year + era * 400) = leap year := by
  have four : (year + era * 400) % 4 = year % 4 := by omega
  have hundred : (year + era * 400) % 100 = year % 100 := by omega
  rw [leap, four, hundred, Int.add_mul_emod_self_right, leap]

theorem years_of_era : ∀ yoe < 400, yearOfEra (yearStart yoe) = yoe ∧
    yearOfEra (yearStart yoe + (yearLength yoe - 1)) = yoe ∧
    yearStart yoe + yearLength yoe = if yoe = 399 then 146097 else yearStart (yoe + 1) := by
  decide +kernel

theorem year_end_le (year : yoe < 400) : yearStart yoe + yearLength yoe ≤ 146097 := by
  rw [(years_of_era yoe year).2.2, yearStart]
  split_ifs <;> omega

theorem yearOfEra_mono (le : first ≤ second) (inside : second < 146097) :
    yearOfEra first ≤ yearOfEra second := by
  refine Nat.div_le_div_right ?_
  omega

theorem yearOfEra_of_day (year : yoe < 400) (day : doy < yearLength yoe) :
    yearOfEra (yearStart yoe + doy) = yoe := by
  obtain ⟨first, last, -⟩ := years_of_era yoe year
  have bound := year_end_le year
  have low := yearOfEra_mono (Nat.le_add_right (yearStart yoe) doy) (by omega)
  have high := yearOfEra_mono (show yearStart yoe + doy ≤ yearStart yoe + (yearLength yoe - 1) by omega)
    (by omega)
  omega

theorem exists_day (inside : doe < 146097) :
    ∃ yoe doy, yoe < 400 ∧ doy < yearLength yoe ∧ doe = yearStart yoe + doy := by
  let yoe := Nat.findGreatest (yearStart · ≤ doe) 399
  have started : yearStart yoe ≤ doe :=
    Nat.findGreatest_spec (P := (yearStart · ≤ doe)) (Nat.zero_le 399) (Nat.zero_le doe)
  have year : yoe ≤ 399 := Nat.findGreatest_le 399
  have ends := (years_of_era yoe (by omega)).2.2
  refine ⟨yoe, doe - yearStart yoe, by omega, ?_, by omega⟩
  split_ifs at ends with final
  · omega
  have later : ¬ yearStart (yoe + 1) ≤ doe :=
    Nat.findGreatest_is_greatest (P := (yearStart · ≤ doe)) (Nat.lt_succ_self yoe) (by omega)
  omega

/-! ## Positions -/

/-- The day `days` is day `doy` of year `yoe` of the era. -/
structure Position (days era : Int) (yoe doy : Nat) : Prop where
  year : yoe < 400
  day : doy < yearLength yoe
  split : days + 719468 = era * 146097 + (yearStart yoe + doy : Nat)

theorem exists_position (days : Int) : ∃ era yoe doy, Position days era yoe doy := by
  have inside : ((days + 719468) % 146097).toNat < 146097 := by omega
  obtain ⟨yoe, doy, year, day, same⟩ := exists_day inside
  exact ⟨(days + 719468) / 146097, yoe, doy, year, day, by omega⟩

section
variable (position : Position days era yoe doy)
include position

theorem Position.era_eq : eraOf (days + 719468) = era := by
  have bound := year_end_le position.year
  have day := position.day
  rw [eraOf, position.split, Int.tdiv_eq_ediv, show Int.sign 146097 = 1 from rfl]
  split_ifs <;> omega

theorem Position.doe_eq : (days + 719468 - era * 146097).toNat = yearStart yoe + doy := by
  rw [position.split]
  omega

theorem Position.date : civilFromDays days = dateInYear (yoe + era * 400) doy := by
  simp only [civilFromDays, position.era_eq, position.doe_eq,
    yearOfEra_of_day position.year position.day, Nat.add_sub_cancel_left]

end

/-! ## Days of a year -/

/-- The same day of another year. -/
def CivilDate.shift (years : Int) (date : CivilDate) : CivilDate :=
  { date with year := date.year + years }

theorem dateInYear_shift (y years : Int) (doy : Nat) :
    dateInYear (y + years) doy = (dateInYear y doy).shift years := by
  simp only [dateInYear, CivilDate.shift, CivilDate.mk.injEq, and_true]
  split_ifs <;> omega

/-- Day `doy` of a year is a date, and the next date is the next day, or 1 March of the next year. -/
def DayFits (length : Nat) (y : Int) (doy : Nat) : Prop :=
  (dateInYear y doy).Valid ∧ (dateInYear y doy).next =
    if doy + 1 < length then dateInYear y (doy + 1) else dateInYear (y + 1) 0

/-- Only the length of February depends on the year. -/
theorem DayFits.of_leap (fits : DayFits length base doy) (same : leap (y + 1) = leap (base + 1)) :
    DayFits length y doy := by
  obtain ⟨years, rfl⟩ : ∃ years, y = base + years := ⟨y - base, by omega⟩
  have lengths : monthLength (leap ((dateInYear base doy).year + years)) (dateInYear base doy).month =
      monthLength (leap (dateInYear base doy).year) (dateInYear base doy).month := by
    by_cases february : (dateInYear base doy).month = 2
    · have year : (dateInYear base doy).year = base + 1 := if_pos (Nat.le_of_eq february)
      rw [year, Int.add_right_comm, same]
    · simp [monthLength, february]
  obtain ⟨valid, next⟩ := fits
  rw [DayFits, Int.add_right_comm, dateInYear_shift, dateInYear_shift, dateInYear_shift,
    ← apply_ite (CivilDate.shift years), ← next]
  refine ⟨⟨valid.1, valid.2.1, valid.2.2.1, lengths ▸ valid.2.2.2⟩, ?_⟩
  simp only [CivilDate.next, CivilDate.shift, lengths]
  split_ifs <;> simp [*, Int.add_right_comm]

theorem dayFits (day : doy < yearLength yoe) (era : Int) :
    DayFits (yearLength yoe) (yoe + era * 400) doy := by
  have common : ∀ doy < 365, DayFits 365 0 doy := by
    unfold DayFits CivilDate.Valid
    decide +kernel
  have leaping : ∀ doy < 366, DayFits 366 3 doy := by
    unfold DayFits CivilDate.Valid
    decide +kernel
  have year : leap (yoe + era * 400 + 1) = leap (yoe + 1) := by
    rw [Int.add_right_comm, leap_era]
  unfold yearLength at day ⊢
  cases kind : leap (yoe + 1) with
  | false =>
    rw [kind] at day
    exact (common doy day).of_leap (year.trans kind)
  | true =>
    rw [kind] at day
    exact (leaping doy day).of_leap (year.trans kind)

/-! ## Types -/

def I64 (n : Int) : Prop := -9223372036854775808 ≤ n ∧ n < 9223372036854775808

/-- No operation leaves its type: what is signed fits, and no unsigned difference is negative. -/
def NoOverflow (days : Int) : Prop :=
  let z := days + 719468
  let era := eraOf z
  let doe := (z - era * 146097).toNat
  let yoe := yearOfEra doe
  let doy := doe - yearStart yoe
  (z < 0 → I64 (z - 146096)) ∧ I64 (era * 146097) ∧ 0 ≤ z - era * 146097 ∧
    doe / 146096 ≤ doe - doe / 1460 + doe / 36524 ∧ yoe / 100 ≤ 365 * yoe + yoe / 4 ∧
    yearStart yoe ≤ doe ∧ (153 * ((5 * doy + 2) / 153) + 2) / 5 ≤ doy ∧
    I64 (yoe + era * 400) ∧ I64 (yoe + era * 400 + 1)

theorem Position.noOverflow (position : Position days era yoe doy) (low : I64 days)
    (high : I64 (days + 719468)) : NoOverflow days := by
  have bound := year_end_le position.year
  simp only [NoOverflow, position.era_eq, position.doe_eq,
    yearOfEra_of_day position.year position.day]
  obtain ⟨year, day, split⟩ := position
  unfold I64 at *
  refine ⟨?_, ?_, ?_, ?_, ?_, ?_, ?_, ?_, ?_⟩ <;> omega

/-- Every day is given its date: day 0 is 1 January 1970, each date is one of the calendar, and
the date of the next day is the next date. Nothing overflows unless adding 719468 does. -/
theorem civil_from_days_is_gregorian :
    civilFromDays 0 = ⟨1970, 1, 1⟩ ∧
    (∀ days, (civilFromDays days).Valid ∧ civilFromDays (days + 1) = (civilFromDays days).next) ∧
    ∀ days, I64 days → I64 (days + 719468) → NoOverflow days := by
  refine ⟨by decide, fun days => ?_, fun days fits sum => ?_⟩
  · obtain ⟨era, yoe, doy, position⟩ := exists_position days
    obtain ⟨valid, next⟩ := dayFits position.day era
    rw [position.date, next]
    refine ⟨valid, ?_⟩
    obtain ⟨year, day, split⟩ := position
    have ends := (years_of_era yoe year).2.2
    have start : ∀ yoe, 0 < yearLength yoe := fun yoe => Nat.add_pos_left (by decide) _
    split_ifs with more
    · exact Position.date ⟨year, more, by omega⟩
    by_cases final : yoe = 399
    · rw [if_pos final] at ends
      have later : Position (days + 1) (era + 1) 0 0 :=
        ⟨by decide, start 0, by simp only [yearStart]; omega⟩
      rw [later.date]
      congr 1
      omega
    rw [if_neg final] at ends
    have later : Position (days + 1) era (yoe + 1) 0 := ⟨by omega, start _, by omega⟩
    rw [later.date]
    congr 1
    omega
  · obtain ⟨era, yoe, doy, position⟩ := exists_position days
    exact position.noOverflow fits sum

end UmojaFlowOS.LedgerGateway
