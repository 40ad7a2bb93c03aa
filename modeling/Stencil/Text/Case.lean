import Stencil.Text.Alphabetic
import Stencil.Text.Cased
import Stencil.Text.LowerCase
import Stencil.Text.UpperCase
import Stencil.Text.WhiteSpace

/-!
# Case of a text

Upper-casing takes every character to its full form.  Lower-casing does too, except that a
capital sigma at the end of a word becomes a final sigma.  Capitalizing puts the first character
of every word that white space sets off in upper case, if it is a letter.
-/

namespace Stencil

namespace Text

/-- The upper-case form of a text. -/
def upper (text : List Char) : List Char :=
  text.flatMap upperCase

/-- Whether the first character that case conditions do not look past is cased. -/
def startsCased (text : List Char) : Bool :=
  match text.dropWhile isCaseIgnorable with
  | c :: _ => isCased c
  | [] => false

/-- The lower-case form of a text that follows the reversed text `before`. -/
def lowerAfter (before : List Char) : List Char → List Char
  | [] => []
  | c :: rest =>
      let form :=
        if c = 'Σ' then (if startsCased before && !startsCased rest then ['ς'] else ['σ'])
        else lowerCase c
      form ++ lowerAfter (c :: before) rest

/-- The lower-case form of a text. -/
def lower (text : List Char) : List Char :=
  lowerAfter [] text

/-- Capitalizes a text, at whose beginning a word may start or not. -/
def capitalizeFrom (atWordStart : Bool) : List Char → List Char
  | [] => []
  | c :: rest =>
      (if atWordStart && isAlphabetic c then upperCase c else [c]) ++
        capitalizeFrom (isWhiteSpace c) rest

/-- Capitalizes every word of a text. -/
def capitalize (text : List Char) : List Char :=
  capitalizeFrom true text

end Text

end Stencil
