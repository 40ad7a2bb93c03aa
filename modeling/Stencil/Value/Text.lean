import Stencil.Number.Shortest
import Stencil.Time.Rfc3339
import Stencil.Value.Basic

/-!
# The text of a value

Every value has a text.  What a template puts out for a value is its text, except that null puts out
nothing, whether or not it is inside optional layers.
-/

namespace Stencil

namespace Value

/-- The text of a truth value. -/
def truthText (flag : Bool) : String :=
  if flag then "true" else "false"

mutual

/-- The text of a value. -/
def text : Value → String
  | null => "null"
  | boolean flag => truthText flag
  | number n => n.text
  | string text => text
  | array _ items => "[" ++ ", ".intercalate (itemTexts items) ++ "]"
  | map _ entries => "\x7b" ++ ", ".intercalate (entryTexts entries) ++ "\x7d"
  | time t => t.text
  | absent => "null"
  | present inner => inner.text

/-- The texts of the items of an array. -/
def itemTexts : List Value → List String
  | [] => []
  | item :: rest => item.text :: itemTexts rest

/-- The texts of the entries of a map. -/
def entryTexts : List (String × Value) → List String
  | [] => []
  | (name, value) :: rest => (name ++ ":" ++ value.text) :: entryTexts rest

end

/-- What a template puts out for a value. -/
def output (value : Value) : String :=
  if value.isNull then "" else value.unwrapped.text

end Value

end Stencil
