import Stencil.Text.Printable

/-!
# Quoted text

A text between double quotes, in which a quote, a backslash and the usual controls are written
with a backslash, and every other character that is not printable by its code point in
hexadecimal.
-/

namespace Stencil

namespace Text

/-- A character by its code point. -/
def codePointEscape (c : Char) : List Char :=
  "\\u".toList ++ '\x7b' :: Nat.toDigits 16 c.toNat ++ ['\x7d']

/-- A character as it stands in quoted text. -/
def quotedChar (c : Char) : List Char :=
  if c = '\x00' then ['\\', '0']
  else if c = '\t' then ['\\', 't']
  else if c = '\r' then ['\\', 'r']
  else if c = '\n' then ['\\', 'n']
  else if c = '\x22' then ['\\', '\x22']
  else if c = '\\' then ['\\', '\\']
  else if isPrintable c then [c]
  else codePointEscape c

/-- A text between double quotes. -/
def quoted (text : String) : String :=
  String.ofList ('\x22' :: text.toList.flatMap quotedChar ++ ['\x22'])

end Text

end Stencil
