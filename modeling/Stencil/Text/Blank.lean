/-! # Blank characters

Whitespace in the sense of the Unicode property `White_Space`: 25 characters. A zero-width space,
a byte order mark and the information separators do not belong to it.
-/

namespace Stencil.Text

/-- Whether a character has the property `White_Space`. -/
def isBlank (c : Char) : Bool :=
  ('\t' ≤ c && c ≤ '\r') || c == ' ' || c == '\u0085' || c == '\u00a0' || c == '\u1680' ||
  ('\u2000' ≤ c && c ≤ '\u200a') || c == '\u2028' || c == '\u2029' || c == '\u202f' ||
  c == '\u205f' || c == '\u3000'

/-- A text without the blanks in front. -/
def trimFront (chars : List Char) : List Char := chars.dropWhile isBlank

/-- A text without the blanks at its end. -/
def trimBack (chars : List Char) : List Char := (chars.reverse.dropWhile isBlank).reverse

/-- A text without the blanks around it. -/
def trim (chars : List Char) : List Char := trimBack (trimFront chars)

/-- The blanks that may stand between the parts of one directive. -/
def isIndent (c : Char) : Bool := c == ' ' || c == '\t'

end Stencil.Text
