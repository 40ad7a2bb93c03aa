/-!
# Tables of code points

Properties of characters are held as ascending ranges of code points, and case forms as runs of
characters whose forms lie at one distance.  Both are looked up from the low end, which for the
first characters of the code space takes a step or two.
-/

namespace Stencil

namespace Text

/-- Code points as ascending ranges, both ends included. -/
abbrev Ranges := List (Nat × Nat)

/-- Whether a code point lies in one of the ranges. -/
def Ranges.containsCode : Ranges → Nat → Bool
  | [], _ => false
  | (first, last) :: rest, code =>
      if code < first then false
      else if code ≤ last then true
      else containsCode rest code

/-- Every `step`-th code point from `first` to `last`, and the case form of the first of them. -/
structure CaseRun where
  first : Nat
  last : Nat
  step : Nat
  form : Nat

namespace CaseRun

/-- Whether a code point is one of the run. -/
def containsCode (run : CaseRun) (code : Nat) : Bool :=
  run.first ≤ code && code ≤ run.last && (code - run.first) % run.step == 0

end CaseRun

/-- The case form of a character: its own entry among the longer forms, or the form of the run
that it is in, or the character itself. -/
def caseForm (runs : List CaseRun) (expansions : List (Nat × List Nat)) (c : Char) : List Char :=
  match expansions.find? (fun entry => entry.1 == c.toNat) with
  | some (_, form) => form.map Char.ofNat
  | none =>
      match runs.find? (fun run => run.containsCode c.toNat) with
      | some run => [Char.ofNat (run.form + (c.toNat - run.first))]
      | none => [c]

end Text

end Stencil
