/-!
# Numbers of double precision

A number is not-a-number, one of the two infinities, or a sign with a significand and an
exponent.  Magnitudes are counted in units of `2 ^ -1074`, the distance between the two smallest
magnitudes, so every finite number is a whole count of units and all arithmetic here is exact
arithmetic on naturals.

Rounding sends a ratio to the nearest magnitude of a binary format, and to the one with the even
significand if two are equally near.  Comparison places both numbers on one line; not-a-number
has no place, so it is neither equal to, below nor above anything.
-/

namespace Stencil

/-- The shape of a binary format: how many bits a significand has, and the least and greatest
exponent of its last bit, in units. -/
structure BinaryFormat where
  precision : Nat
  lowest : Nat
  highest : Nat

namespace BinaryFormat

/-- Double precision: 53 bits, down to one unit. -/
def double : BinaryFormat := ⟨53, 0, 2045⟩

/-- Single precision: 24 bits, down to `2 ^ -149`. -/
def single : BinaryFormat := ⟨24, 925, 1178⟩

end BinaryFormat

/-- The natural number nearest to `n / d`, the even one of two that are equally near. -/
def roundHalfEven (n d : Nat) : Nat :=
  if d < 2 * (n % d) ∨ (2 * (n % d) = d ∧ n / d % 2 = 1) then n / d + 1 else n / d

/-- The natural number nearest to `n / d`, the greater one of two that are equally near. -/
def roundHalfUp (n d : Nat) : Nat :=
  (2 * n + d) / (2 * d)

namespace BinaryFormat

/-- The exponent at which `n / d` units fill a significand, or the least one of the format. -/
def exponentFor (format : BinaryFormat) (n d : Nat) : Nat :=
  max format.lowest ((n / d).log2 + 1 - format.precision)

/-- Significand and exponent of the magnitude of the format nearest to `n / d` units, or `none`
beyond the greatest one. -/
def round? (format : BinaryFormat) (n d : Nat) : Option (Nat × Nat) :=
  let exponent := format.exponentFor n d
  let significand := roundHalfEven n (d * Nat.pow 2 exponent)
  let (significand, exponent) :=
    if significand = Nat.pow 2 format.precision then (significand / 2, exponent + 1)
    else (significand, exponent)
  if exponent ≤ format.highest then some (significand, exponent) else none

end BinaryFormat

/-- A significand and an exponent that stand for a magnitude of double precision in the one way
allowed: below the least exponent's first full significand there is only the exponent zero. -/
def Canonical (significand exponent : Nat) : Prop :=
  significand < Nat.pow 2 53 ∧ exponent ≤ 2045 ∧ (exponent = 0 ∨ Nat.pow 2 52 ≤ significand)

instance (significand exponent : Nat) : Decidable (Canonical significand exponent) := by
  unfold Canonical
  infer_instance

/-- A number of double precision. -/
inductive Number
  | nan
  | infinite (negative : Bool)
  | finite (negative : Bool) (significand exponent : Nat)
    (canonical : Canonical significand exponent)
  deriving DecidableEq

namespace Number

/-- How many units make one. -/
def unitsPerOne : Nat := Nat.pow 2 1074

/-- Zero without a sign. -/
def zero : Number := .finite false 0 0 (by decide)

instance : Inhabited Number := ⟨zero⟩

/-- The magnitude of `n / d` units in double precision, with the given sign. -/
def ofUnits (negative : Bool) (n d : Nat) : Number :=
  match BinaryFormat.double.round? n d with
  | some (significand, exponent) =>
      if h : Canonical significand exponent then .finite negative significand exponent h
      else .infinite negative
  | none => .infinite negative

/-- The number nearest to `n / d`, with the given sign. -/
def ofRatio (negative : Bool) (n d : Nat) : Number :=
  ofUnits negative (n * unitsPerOne) d

/-- The number nearest to an integer. -/
def ofInt (n : Int) : Number :=
  ofRatio (n < 0) n.natAbs 1

/-- The number nearest to a natural number. -/
def ofNat (n : Nat) : Number :=
  ofRatio false n 1

/-- The number of single precision nearest to `n / d` units, with the given sign. -/
def singleOfUnits (negative : Bool) (n d : Nat) : Number :=
  match BinaryFormat.single.round? n d with
  | some (significand, exponent) => ofUnits negative (significand * Nat.pow 2 exponent) 1
  | none => .infinite negative

/-- The number of single precision nearest to `n / d`, with the given sign. -/
def singleOfRatio (negative : Bool) (n d : Nat) : Number :=
  singleOfUnits negative (n * unitsPerOne) d

/-- The number of single precision nearest to a number. -/
def toSingle : Number → Number
  | .finite negative significand exponent _ =>
      singleOfUnits negative (significand * Nat.pow 2 exponent) 1
  | other => other

/-- The count of units in a significand at an exponent. -/
def magnitude (significand exponent : Nat) : Nat :=
  significand * Nat.pow 2 exponent

/-- A count with a sign put in front of it. -/
def signed (negative : Bool) (count : Nat) : Int :=
  if negative then -(count : Int) else count

/-- The place of a number on the line, in units.  The infinities lie beyond every finite number. -/
def place : Number → Option Int
  | .nan => none
  | .infinite negative => some (signed negative (Nat.pow 2 2098))
  | .finite negative significand exponent _ =>
      some (signed negative (magnitude significand exponent))

/-- Whether two numbers stand at the same place; zero is one place whatever its sign. -/
def equals (a b : Number) : Bool :=
  match a.place, b.place with
  | some x, some y => x = y
  | _, _ => false

/-- Whether the first number stands below the second. -/
def below (a b : Number) : Bool :=
  match a.place, b.place with
  | some x, some y => x < y
  | _, _ => false

/-- Whether the first number stands below the second or at its place. -/
def atMost (a b : Number) : Bool :=
  match a.place, b.place with
  | some x, some y => x ≤ y
  | _, _ => false

/-- Every number but the two zeros. -/
def isNonzero (a : Number) : Bool :=
  !a.equals zero

/-- The natural number that a number equals, if there is one. -/
def toNat? : Number → Option Nat
  | .finite negative significand exponent _ =>
      let count := magnitude significand exponent
      if count % unitsPerOne = 0 ∧ (negative = false ∨ count = 0) then some (count / unitsPerOne)
      else none
  | _ => none

/-- The integer nearest to a finite number; a half goes away from zero. -/
def nearestInt? : Number → Option Int
  | .finite negative significand exponent _ =>
      some (signed negative (roundHalfUp (magnitude significand exponent) unitsPerOne))
  | _ => none

end Number

end Stencil
