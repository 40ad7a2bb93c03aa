import Stencil.Modifier.Basic
import Stencil.Number.Grouped
import Stencil.Text.Case

/-!
# Built-in modifiers

The built-in modifiers work on texts, or one of them on numbers, and look through optional
layers.  A value of another type becomes null.
-/

namespace Stencil

namespace Modifier

variable {σ : Type}

/-- A modifier that leaves the state of the host alone. -/
def ofFunction (f : Value → Value) : Modifier σ :=
  fun value host => (f value, host)

/-- Works on the characters of a text. -/
def onText (f : List Char → List Char) (value : Value) : Value :=
  match value.toText? with
  | some text => .string (String.ofList (f text.toList))
  | none => .null

/-- A line feed as a line break of hypertext. -/
def breakChar (c : Char) : List Char :=
  if c = '\n' then "<br />".toList else [c]

/-- A character with a meaning of its own in hypertext as an entity. -/
def escapeChar (c : Char) : List Char :=
  if c = '&' then "&amp;".toList
  else if c = '<' then "&lt;".toList
  else if c = '>' then "&gt;".toList
  else if c = '\x22' then "&quot;".toList
  else if c = '\x27' then "&#039;".toList
  else [c]

/-- A text with its line feeds as line breaks. -/
def breakLines (text : List Char) : List Char :=
  text.flatMap breakChar

/-- A text in which no character has a meaning of its own in hypertext. -/
def escape (text : List Char) : List Char :=
  text.flatMap escapeChar

/-- A number rounded to an integer, with its digits in groups. -/
def formatNumber (value : Value) : Value :=
  match value.toNumber? with
  | some n => .string n.groupedText
  | none => .null

/-- The built-in modifiers under their names. -/
def builtins : List (String × (Value → Value)) :=
  [("capitalize", onText Text.capitalize), ("escape", onText escape),
    ("lower", onText Text.lower), ("nl2br", onText breakLines),
    ("number_format", formatNumber), ("upper", onText Text.upper)]

end Modifier

namespace Registry

variable {σ : Type}

/-- The registry of the built-in modifiers. -/
def builtin : Registry σ :=
  Modifier.builtins.map fun entry => (entry.1, Modifier.ofFunction entry.2)

/-- A new registry, with the built-in modifiers or without any. -/
def create (withBuiltins : Bool) : Registry σ :=
  if withBuiltins then builtin else []

end Registry

end Stencil
