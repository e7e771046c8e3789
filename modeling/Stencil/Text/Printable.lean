import Stencil.Text.Category

/-! # Printable characters

The characters that a message can show as they are, by the tables of Unicode 17. Every letter,
number, sign and punctuation mark has a shape of its own, except the fillers that are displayed as
nothing; a mark has one only if it takes up room behind the character before it and does not extend
that. Within ASCII the printable characters are those from the space to the tilde.
-/

namespace Stencil.Text

/-- The categories of the characters that have a shape. -/
def shapedCategories : List Category := [
  .uppercaseLetter, .lowercaseLetter, .titlecaseLetter, .modifierLetter, .otherLetter, .spacingMark,
  .decimalNumber, .letterNumber, .otherNumber, .connectorPunctuation, .dashPunctuation,
  .openPunctuation, .closePunctuation, .initialPunctuation, .finalPunctuation, .otherPunctuation,
  .mathSymbol, .currencySymbol, .modifierSymbol, .otherSymbol]

/-- The marks with a width that extend the character before them, as inclusive ranges of code points
in ascending order. -/
def extendingRanges : List (Nat × Nat) := [
  (0x9be, 0x9be), (0x9d7, 0x9d7), (0xb3e, 0xb3e), (0xb57, 0xb57), (0xbbe, 0xbbe), (0xbd7, 0xbd7),
  (0xcc0, 0xcc0), (0xcc2, 0xcc2), (0xcc7, 0xcc8), (0xcca, 0xccb), (0xcd5, 0xcd6), (0xd3e, 0xd3e),
  (0xd57, 0xd57), (0xdcf, 0xdcf), (0xddf, 0xddf), (0x1715, 0x1715), (0x1734, 0x1734),
  (0x1b35, 0x1b35), (0x1b3b, 0x1b3b), (0x1b3d, 0x1b3d), (0x1b43, 0x1b44), (0x1baa, 0x1baa),
  (0x1bf2, 0x1bf3), (0x302e, 0x302f), (0xa953, 0xa953), (0xa9c0, 0xa9c0), (0x111c0, 0x111c0),
  (0x11235, 0x11235), (0x1133e, 0x1133e), (0x1134d, 0x1134d), (0x11357, 0x11357),
  (0x113b8, 0x113b8), (0x113c2, 0x113c2), (0x113c5, 0x113c5), (0x113c7, 0x113c9),
  (0x113cf, 0x113cf), (0x114b0, 0x114b0), (0x114bd, 0x114bd), (0x115af, 0x115af),
  (0x116b6, 0x116b6), (0x11930, 0x11930), (0x1193d, 0x1193d), (0x11f41, 0x11f41),
  (0x16ff0, 0x16ff1), (0x1d165, 0x1d166), (0x1d16d, 0x1d172)]

/-- The letters that are displayed as nothing. -/
def fillers : List Nat := [0x115f, 0x1160, 0x3164, 0xffa0]

/-- Whether a character is printable. -/
def isPrintable (c : Char) : Bool :=
  if c.toNat < 0x80 then ' ' ≤ c && c ≤ '~'
  else
    shapedCategories.any (·.has c) && !inRanges extendingRanges c.toNat && !fillers.contains c.toNat

end Stencil.Text
