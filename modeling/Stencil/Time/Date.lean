/-!
# Dates of the Gregorian calendar

Days are counted from 1 January 1970, before and after it alike.  For counting, a year begins in
March, so that a leap day is its last day: the months then have the same lengths in every year,
and the years fall into cycles of four, a hundred and four hundred.
-/

namespace Stencil

/-- A date of the Gregorian calendar. -/
structure Date where
  year : Int
  month : Nat
  day : Nat
  deriving DecidableEq

namespace Date

/-- Days from 1 March of the year 0 to 1 January 1970. -/
def epoch : Int := 719468

/-- The day of a year that begins in March on which a month begins. -/
def monthStart (monthFromMarch : Nat) : Nat :=
  (153 * monthFromMarch + 2) / 5

/-- Days since 1 January 1970. -/
def toDays (date : Date) : Int :=
  let year := if date.month ≤ 2 then date.year - 1 else date.year
  let dayOfYear := monthStart ((date.month + 9) % 12) + date.day
  365 * year + year / 4 - year / 100 + year / 400 + dayOfYear - 1 - epoch

/-- The date of a month counted from March and a day counted from zero, in a year that begins in
March. -/
def ofMarchYear (year : Int) (dayOfYear : Nat) : Date :=
  let monthFromMarch := (5 * dayOfYear + 2) / 153
  let day := dayOfYear - monthStart monthFromMarch + 1
  if monthFromMarch < 10 then ⟨year, monthFromMarch + 3, day⟩
  else ⟨year + 1, monthFromMarch - 9, day⟩

/-- The date so many days after 1 January 1970. -/
def ofDays (days : Int) : Date :=
  let shifted := days + epoch
  let inEra := (shifted % 146097).toNat
  let centuries := min 3 (inEra / 36524)
  let inCentury := inEra - 36524 * centuries
  let quads := inCentury / 1461
  let inQuad := inCentury - 1461 * quads
  let years := min 3 (inQuad / 365)
  ofMarchYear (400 * (shifted / 146097) + (100 * centuries + 4 * quads + years : Nat))
    (inQuad - 365 * years)

/-- Whether a year has a leap day. -/
def isLeapYear (year : Int) : Bool :=
  year % 4 = 0 && (year % 100 ≠ 0 || year % 400 = 0)

/-- How many days a month has. -/
def daysInMonth (year : Int) (month : Nat) : Nat :=
  if month = 2 then (if isLeapYear year then 29 else 28)
  else if month = 4 ∨ month = 6 ∨ month = 9 ∨ month = 11 then 30
  else 31

/-- Whether the calendar has the date. -/
def isValid (date : Date) : Bool :=
  1 ≤ date.month && date.month ≤ 12 && 1 ≤ date.day && date.day ≤ daysInMonth date.year date.month

end Date

end Stencil
