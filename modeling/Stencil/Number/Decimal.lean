import Stencil.Number.Basic

/-!
# Decimal notation for numbers

A numeral is digits with an optional point, an optional exponent and an optional sign, or the
name of an infinity or of not-a-number.  What it writes is kept exactly until it is rounded, so
a number of single precision is rounded once from the numeral and not a second time from double
precision.  A decimal too large for a format is infinite in it and one too small is a zero of
its sign.
-/

namespace Stencil

namespace Number

/-- The value of a decimal digit; other characters count as zero. -/
def digitValue (c : Char) : Nat :=
  if c.isDigit then c.toNat - '0'.toNat else 0

/-- The natural number that a run of digits writes. -/
def digitsValue (digits : List Char) : Nat :=
  digits.foldl (fun value c => 10 * value + digitValue c) 0

/-- The ratio `significand * 10 ^ exponent`.  Beyond four hundred places either way, where every
format has come to its end, a ratio that lies there too stands for it without the power. -/
def decimalRatio (significand : Nat) (exponent : Int) : Nat × Nat :=
  if exponent + (significand.log2 + 1 : Nat) < -400 then (0, 1)
  else if 0 ≤ exponent then (significand * Nat.pow 10 (min 400 exponent.toNat), 1)
  else (significand, Nat.pow 10 (-exponent).toNat)

/-- The number nearest to `significand * 10 ^ exponent`. -/
def ofDecimal (negative : Bool) (significand : Nat) (exponent : Int) : Number :=
  let ratio := decimalRatio significand exponent
  ofRatio negative ratio.1 ratio.2

/-- The number of single precision nearest to `significand * 10 ^ exponent`. -/
def singleOfDecimal (negative : Bool) (significand : Nat) (exponent : Int) : Number :=
  let ratio := decimalRatio significand exponent
  singleOfRatio negative ratio.1 ratio.2

/-- The number that a run of digits stands for. -/
def ofDigits (digits : List Char) : Number :=
  ofDecimal false (digitsValue digits) 0

end Number

/-- What a numeral writes, as exactly as it writes it. -/
inductive Numeral
  | nan
  | infinite (negative : Bool)
  | decimal (negative : Bool) (significand : Nat) (exponent : Int)
  deriving DecidableEq

namespace Numeral

/-- The number nearest to what a numeral writes. -/
def toNumber : Numeral → Number
  | nan => .nan
  | infinite negative => .infinite negative
  | decimal negative significand exponent => .ofDecimal negative significand exponent

/-- The number of single precision nearest to what a numeral writes. -/
def toSingle : Numeral → Number
  | nan => .nan
  | infinite negative => .infinite negative
  | decimal negative significand exponent => .singleOfDecimal negative significand exponent

/-- A sign, if there is one, and what follows it. -/
def takeSign : List Char → Bool × List Char
  | '-' :: rest => (true, rest)
  | '+' :: rest => (false, rest)
  | text => (false, text)

/-- The exponent written at the end of a decimal, zero if nothing is left. -/
def readExponent? : List Char → Option Int
  | [] => some 0
  | c :: rest =>
      if c = 'e' ∨ c = 'E' then
        let (negative, digits) := takeSign rest
        if digits.isEmpty = false ∧ digits.all Char.isDigit then
          some (Number.signed negative (Number.digitsValue digits))
        else none
      else none

/-- The point and the digits behind it, if there are any, and what follows them. -/
def takeFraction : List Char → List Char × List Char
  | '.' :: rest => (rest.takeWhile Char.isDigit, rest.dropWhile Char.isDigit)
  | text => ([], text)

/-- Reads digits with an optional point and an optional exponent. -/
def readUnsigned? (negative : Bool) (text : List Char) : Option Numeral :=
  let whole := text.takeWhile Char.isDigit
  let (fraction, rest) := takeFraction (text.dropWhile Char.isDigit)
  if whole.isEmpty ∧ fraction.isEmpty then none
  else
    (readExponent? rest).map fun exponent =>
      .decimal negative (Number.digitsValue (whole ++ fraction)) (exponent - fraction.length)

/-- Reads a decimal, or the name of an infinity or of not-a-number. -/
def read? (text : String) : Option Numeral :=
  let (negative, rest) := takeSign text.toList
  match String.ofList (rest.map Char.toLower) with
  | "nan" => some .nan
  | "inf" | "infinity" => some (.infinite negative)
  | _ => readUnsigned? negative rest

end Numeral

end Stencil
