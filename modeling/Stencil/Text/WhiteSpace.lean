import Stencil.Text.Ranges

/-!
# White space

The characters with the Unicode property White_Space.
-/

namespace Stencil

namespace Text

/-- The code points of the white space characters. -/
def whiteSpaceRanges : Ranges :=
  [ (0x9, 0xD), (0x20, 0x20), (0x85, 0x85), (0xA0, 0xA0), (0x1680, 0x1680), (0x2000, 0x200A),
    (0x2028, 0x2029), (0x202F, 0x202F), (0x205F, 0x205F), (0x3000, 0x3000) ]

/-- Whether a character is white space. -/
def isWhiteSpace (c : Char) : Bool :=
  whiteSpaceRanges.containsCode c.toNat

end Text

end Stencil
