import Stencil.Number.Shortest

/-!
# Numbers in groups of three digits

A finite number is rounded to an integer, a half going away from zero, and the digits of that
integer are parted by commas into groups of three counted from the right.  The sign is that of
the rounded integer, so nothing reads as a negative zero.
-/

namespace Stencil

namespace Number

/-- Digits with a comma wherever a whole number of groups of three follows. -/
def groupedDigits : List Char → List Char
  | [] => []
  | digit :: rest =>
      if rest.isEmpty = false ∧ rest.length % 3 = 0 then digit :: ',' :: groupedDigits rest
      else digit :: groupedDigits rest

/-- The grouped text of an integer. -/
def groupedInt (n : Int) : String :=
  String.ofList (signText (n < 0) (groupedDigits (Nat.toDigits 10 n.natAbs)))

/-- The grouped text of a number; the infinities and not-a-number are written as they are. -/
def groupedText (a : Number) : String :=
  match a.nearestInt? with
  | some n => groupedInt n
  | none => a.text

end Number

end Stencil
