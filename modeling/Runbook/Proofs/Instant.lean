import Mathlib.Tactic.IntervalCases
import Runbook.Instant

namespace Runbook

namespace Date

def leapDays (year : Int) : Int := (year - 1) / 4 - (year - 1) / 100 + (year - 1) / 400

def daysBefore (year : Int) (month : Nat) : Nat :=
  ((List.range' 1 (month - 1)).map (daysInMonth year)).sum

/-- The days from the beginning of 1970 up to the day. -/
def dayNumber (year : Int) (month day : Nat) : Int :=
  365 * (year - 1) + leapDays year + daysBefore year month + day - 719163

theorem isLeapYear_iff {year : Int} :
    isLeapYear year = true ↔ year % 4 = 0 ∧ (year % 100 ≠ 0 ∨ year % 400 = 0) := by
  simp [isLeapYear]

theorem leapDays_succ (year : Int) :
    leapDays (year + 1) = leapDays year + if isLeapYear year then 1 else 0 := by
  unfold leapDays
  split
  next leap =>
    rw [isLeapYear_iff] at leap
    omega
  next common =>
    rw [isLeapYear_iff] at common
    omega

theorem daysBefore_succ (year : Int) {month : Nat} (first : 1 ≤ month) :
    daysBefore year (month + 1) = daysBefore year month + daysInMonth year month := by
  obtain ⟨n, rfl⟩ := Nat.exists_eq_add_of_le' first
  simp [daysBefore, List.range'_concat, Nat.add_comm]

theorem daysBefore_eq (year : Int) (month : Nat) (first : 1 ≤ month) (last : month ≤ 13) :
    daysBefore year month = (367 * month - 362) / 12 -
      if month ≤ 2 then 0 else if isLeapYear year = true then 1 else 2 := by
  unfold daysBefore daysInMonth
  cases isLeapYear year <;> interval_cases month <;> rfl

/-- In a year that begins in March, five months have 153 days, and only the last month can be
short. -/
theorem dayNumber_march {march : Int} {inYear : Nat} (within : inYear ≤ 365)
    (last : isLeapYear (march + 1) = false → inYear < 365) :
    let month := (5 * inYear + 2) / 153
    let year := if month < 10 then march else march + 1
    let calendar := if month < 10 then month + 3 else month - 9
    let day := inYear - (153 * month + 2) / 5 + 1
    (1 ≤ calendar ∧ calendar ≤ 12 ∧ 1 ≤ day ∧ day ≤ daysInMonth year calendar) ∧
      dayNumber year calendar day = 365 * march + leapDays (march + 1) + inYear - 719468 := by
  intro month
  have low : 153 * month ≤ 5 * inYear + 2 := by omega
  have high : 5 * inYear + 2 < 153 * month + 153 := by omega
  have most : month ≤ 11 := by omega
  clear_value month
  by_cases early : month < 10
  · simp only [if_pos early]
    have before := daysBefore_eq march (month + 3) (by omega) (by omega)
    have next := daysBefore_eq march (month + 3 + 1) (by omega) (by omega)
    rw [daysBefore_succ march (by omega)] at next
    have leap := leapDays_succ march
    rw [if_neg (by omega)] at before next
    unfold dayNumber
    split at leap
    next long =>
      rw [if_pos long] at before next
      interval_cases month <;> omega
    next short =>
      rw [if_neg short] at before next
      interval_cases month <;> omega
  · simp only [if_neg early]
    have before := daysBefore_eq (march + 1) (month - 9) (by omega) (by omega)
    have next := daysBefore_eq (march + 1) (month - 9 + 1) (by omega) (by omega)
    rw [daysBefore_succ (march + 1) (by omega)] at next
    unfold dayNumber
    rw [if_pos (by omega)] at before
    cases long : isLeapYear (march + 1)
    · have short := last long
      simp only [long, Bool.false_eq_true, if_false] at next
      interval_cases month <;> split at next <;> omega
    · simp only [long, if_true] at next
      interval_cases month <;> split at next <;> omega

end Date

namespace Instant

open Date

/-- A day of the calendar is as many days from the beginning of 1970 as there are in the years and
months between. -/
theorem dayNumber_civil (days : Int) :
    (1 ≤ (civil days).2.1 ∧ (civil days).2.1 ≤ 12 ∧ 1 ≤ (civil days).2.2 ∧
      (civil days).2.2 ≤ daysInMonth (civil days).1 (civil days).2.1) ∧
      dayNumber (civil days).1 (civil days).2.1 (civil days).2.2 = days := by
  unfold civil
  extract_lets era inEra century inCentury year inYear month march
  have days_eq : days + 719468 = 146097 * era + inEra := by omega
  have inEra_eq : inEra = 36524 * century + inCentury := by omega
  have century_le : century ≤ 3 := by omega
  -- Only the last century of an era has a leap day at its end.
  have inCentury_le : inCentury < 36524 ∨ inCentury = 36524 ∧ century = 3 := by omega
  have four_le : inCentury / 1461 ≤ 24 := by omega
  clear_value era inEra century inCentury
  have year_le : year ≤ 3 := by omega
  have inYear_eq : inCentury % 1461 = 365 * year + inYear := by omega
  have within : inYear ≤ 365 := by omega
  have last : isLeapYear (march + 1) = false → inYear < 365 := by
    intro common
    rw [← Bool.not_eq_true, isLeapYear_iff] at common
    by_contra long
    have fourth : year = 3 := by omega
    omega
  have leap : leapDays (march + 1) = 97 * era + 24 * century + (inCentury / 1461 : Nat) := by
    have march_eq : march = 400 * era + 100 * century + 4 * (inCentury / 1461 : Nat) + year := rfl
    clear last days_eq inEra_eq inCentury_le inYear_eq
    unfold leapDays
    rw [Int.add_sub_cancel]
    clear_value march year
    generalize inCentury / 1461 = four at *
    omega
  obtain ⟨valid, number⟩ := dayNumber_march within last
  refine ⟨valid, number.trans ?_⟩
  rw [leap]
  omega

example : text (1709210096007000000 : Int) = "2024-02-29T12:34:56.007Z" := by decide +kernel

end Instant

end Runbook
