import Mathlib.Tactic.SplitIfs
import Stencil.Time.Date

/-!
# Counting days and back

A count of days falls into eras of four hundred years, and within an era into centuries, runs of
four years and years that begin in March.  All of them but the last of their kind are of one
length, and the last one is a day shorter or longer, so the day within the year tells a leap
year: only there it can be day 365.

The date of a count of days is one that the calendar has, and its days are that count, before
1970 as well as after it.
-/

namespace Stencil

namespace Date

theorem isValid_iff (date : Date) :
    date.isValid = true ↔
      (1 ≤ date.month ∧ date.month ≤ 12) ∧ 1 ≤ date.day ∧
        date.day ≤ daysInMonth date.year date.month := by
  simp only [isValid, Bool.and_eq_true, decide_eq_true_eq, and_assoc]

theorem isLeapYear_iff (year : Int) :
    isLeapYear year = true ↔ year % 4 = 0 ∧ (year % 100 ≠ 0 ∨ year % 400 = 0) := by
  simp only [isLeapYear, Bool.and_eq_true, Bool.or_eq_true, decide_eq_true_eq]

/-- Days from 1 March of the year 0 to 1 March of a year. -/
def daysBefore (year : Int) : Int :=
  365 * year + year / 4 - year / 100 + year / 400

/-! ## A year that begins in March -/

theorem toDays_ofMarchYear (year : Int) {dayOfYear : Nat} (h : dayOfYear ≤ 365) :
    (ofMarchYear year dayOfYear).toDays = daysBefore year + dayOfYear - epoch := by
  have hstart : monthStart ((5 * dayOfYear + 2) / 153) ≤ dayOfYear := by
    rw [monthStart]
    omega
  rw [ofMarchYear]
  split
  · rename_i hmonth
    have hturn : ((5 * dayOfYear + 2) / 153 + 3 + 9) % 12 = (5 * dayOfYear + 2) / 153 := by omega
    have hlate : ¬ (5 * dayOfYear + 2) / 153 + 3 ≤ 2 := by omega
    simp only [toDays, daysBefore, hturn, if_neg hlate]
    omega
  · rename_i hmonth
    have hturn : ((5 * dayOfYear + 2) / 153 - 9 + 9) % 12 = (5 * dayOfYear + 2) / 153 := by omega
    have hearly : (5 * dayOfYear + 2) / 153 - 9 ≤ 2 := by omega
    have hyear : year + 1 - 1 = year := by omega
    simp only [toDays, daysBefore, hturn, if_pos hearly, hyear]
    omega

/-- The calendar has every day of a year that begins in March, the last of 366 if the February
at its end is that of a leap year. -/
theorem isValid_ofMarchYear (year : Int) {dayOfYear : Nat} (h : dayOfYear ≤ 365)
    (hleap : dayOfYear = 365 → isLeapYear (year + 1) = true) :
    (ofMarchYear year dayOfYear).isValid = true := by
  rw [isValid_iff, ofMarchYear]
  split
  · rename_i hmonth
    simp only [daysInMonth, monthStart]
    refine ⟨⟨by omega, by omega⟩, by omega, ?_⟩
    split_ifs <;> omega
  · rename_i hmonth
    simp only [daysInMonth, monthStart]
    refine ⟨⟨by omega, by omega⟩, by omega, ?_⟩
    by_cases hlast : dayOfYear = 365
    · have hfebruary : (5 * dayOfYear + 2) / 153 - 9 = 2 := by omega
      rw [if_pos hfebruary, if_pos (hleap hlast)]
      omega
    · split_ifs <;> omega

/-! ## Any count of days -/

/-- The year that begins in March and the day of it on which a count of days falls. -/
theorem ofDays_cases (days : Int) :
    ∃ (year : Int) (dayOfYear : Nat), ofDays days = ofMarchYear year dayOfYear ∧ dayOfYear ≤ 365 ∧
      (dayOfYear = 365 → isLeapYear (year + 1) = true) ∧
      daysBefore year + dayOfYear - epoch = days := by
  refine ⟨_, _, rfl, ?_⟩
  generalize hera : (days + epoch) / 146097 = era
  generalize hinEra : ((days + epoch) % 146097).toNat = inEra
  have hdays : days + epoch = 146097 * era + inEra ∧ inEra < 146097 := by omega
  generalize hcenturies : min 3 (inEra / 36524) = centuries
  generalize hinCentury : inEra - 36524 * centuries = inCentury
  have hcentury : inEra = 36524 * centuries + inCentury ∧ centuries ≤ 3 ∧
      (inCentury < 36524 ∨ centuries = 3 ∧ inCentury = 36524) := by omega
  generalize hquads : inCentury / 1461 = quads
  generalize hinQuad : inCentury - 1461 * quads = inQuad
  have hquad : inCentury = 1461 * quads + inQuad ∧ quads ≤ 24 ∧ inQuad < 1461 := by omega
  generalize hyears : min 3 (inQuad / 365) = years
  generalize hdayOfYear : inQuad - 365 * years = dayOfYear
  have hyear : inQuad = 365 * years + dayOfYear ∧ years ≤ 3 ∧
      (dayOfYear < 365 ∨ years = 3 ∧ dayOfYear = 365) := by omega
  refine ⟨by omega, ?_, ?_⟩
  · -- Day 365 ends a run of four years, and a century only if it is the last of its era.
    intro hlast
    rw [isLeapYear_iff]
    omega
  · rw [daysBefore]
    have hfours : (400 * era + (100 * centuries + 4 * quads + years : Nat)) / 4 =
        100 * era + 25 * centuries + quads := by omega
    have hhundreds : (400 * era + (100 * centuries + 4 * quads + years : Nat)) / 100 =
        4 * era + centuries := by omega
    have heras : (400 * era + (100 * centuries + 4 * quads + years : Nat)) / 400 = era := by omega
    rw [hfours, hhundreds, heras]
    omega

/-- The date of a count of days has that count. -/
theorem toDays_ofDays (days : Int) : (ofDays days).toDays = days := by
  obtain ⟨year, dayOfYear, hdate, hle, -, hdays⟩ := ofDays_cases days
  rw [hdate, toDays_ofMarchYear year hle, hdays]

/-- The date of a count of days is one that the calendar has. -/
theorem isValid_ofDays (days : Int) : (ofDays days).isValid = true := by
  obtain ⟨year, dayOfYear, hdate, hle, hleap, -⟩ := ofDays_cases days
  rw [hdate]
  exact isValid_ofMarchYear year hle hleap

end Date

end Stencil
