import Stencil.Number.Basic

/-!
# The text of a number

A number is written with the fewest digits that read back as the same number, and with the
nearest of those if there are several.  The digits stand at their places, without an exponent:
zeros fill the gap to the point on either side.

All counts here are in quarters of `10 ^ -1074`.  On that scale a number, the ends of the
interval that rounds to it and every decimal with at most 1074 places behind the point are whole
counts, so the search is exact.
-/

namespace Stencil

namespace Number

/-- The interval of decimals that round to one number: the count of the number itself, the distances
to the two ends, and whether the ends belong to it. -/
structure Interval where
  center : Nat
  below : Nat
  above : Nat
  closed : Bool

namespace Interval

/-- The interval that rounds to a significand at an exponent.  The magnitude below the first full
significand is only half as far away as the one above it. -/
def around (significand exponent : Nat) : Interval :=
  let quarter := Nat.pow 2 exponent * Nat.pow 5 1074
  { center := 4 * (significand * quarter)
    below := if significand = Nat.pow 2 52 ∧ exponent ≠ 0 then quarter else 2 * quarter
    above := 2 * quarter
    closed := significand % 2 = 0 }

/-- Whether a count is in the interval. -/
def contains (interval : Interval) (count : Nat) : Bool :=
  if interval.closed then
    interval.center ≤ count + interval.below ∧ count ≤ interval.center + interval.above
  else
    interval.center < count + interval.below ∧ count < interval.center + interval.above

/-- The multiple of `step` in the interval nearest to its number, the greater one of two that are
equally near, as a factor of `step`. -/
def nearestMultiple? (interval : Interval) (step : Nat) : Option Nat :=
  let factor := interval.center / step
  let low := interval.contains (factor * step)
  let high := interval.contains ((factor + 1) * step)
  if high ∧ (low = false ∨ step ≤ 2 * (interval.center % step)) then some (factor + 1)
  else if low then some factor
  else none

/-- The coarsest decimal grid, at most `10 ^ places`, that has a point in the interval: its nearest
point and its places. -/
def coarsest (interval : Interval) : Nat → Nat × Nat
  | 0 => (interval.center / 4, 0)
  | places + 1 =>
      match interval.nearestMultiple? (4 * Nat.pow 10 (places + 1)) with
      | some factor => (factor, places + 1)
      | none => interval.coarsest places

end Interval

/-- The fewest digits that read back as a magnitude, and the power of ten at the last of them. -/
def shortest (significand exponent : Nat) : List Char × Int :=
  let interval := Interval.around significand exponent
  let places := (Nat.toDigits 10 (interval.center / 4)).length
  let (factor, place) := interval.coarsest places
  (Nat.toDigits 10 factor, (place : Int) - 1074)

/-- Digits written at their places when the last one stands at a power of ten. -/
def positional (digits : List Char) (power : Int) : List Char :=
  if 0 ≤ power then digits ++ List.replicate power.toNat '0'
  else
    let behind := (-power).toNat
    let padded := List.replicate (behind + 1 - digits.length) '0' ++ digits
    padded.take (padded.length - behind) ++ '.' :: padded.drop (padded.length - behind)

/-- The text of a magnitude. -/
def magnitudeText (significand exponent : Nat) : List Char :=
  if significand = 0 then ['0']
  else
    let (digits, power) := shortest significand exponent
    positional digits power

/-- A minus sign in front of negative text. -/
def signText (negative : Bool) (text : List Char) : List Char :=
  if negative then '-' :: text else text

/-- The text of a number. -/
def text : Number → String
  | .nan => "NaN"
  | .infinite negative => String.ofList (signText negative "inf".toList)
  | .finite negative significand exponent _ =>
      String.ofList (signText negative (magnitudeText significand exponent))

end Number

end Stencil
