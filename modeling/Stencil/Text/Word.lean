import Stencil.Text.Category

/-! # Word characters

The characters that regular expressions call word characters in the sense of Unicode 16: letters,
letter numbers and other alphabetic characters, marks, decimal digits, connecting punctuation and
the two joiners. Within ASCII these are the letters, the digits and the low line.
-/

namespace Stencil.Text

/-- The categories of which all characters are word characters. -/
def wordCategories : List Category := [
  .lowercaseLetter, .uppercaseLetter, .otherLetter, .titlecaseLetter, .modifierLetter,
  .nonspacingMark, .spacingMark, .enclosingMark, .decimalNumber, .letterNumber,
  .connectorPunctuation]

/-- Letters in circles and squares, as inclusive ranges of code points in ascending order. -/
def framedLetterRanges : List (Nat × Nat) := [
  (0x24b6, 0x24e9), (0x1f130, 0x1f149), (0x1f150, 0x1f169), (0x1f170, 0x1f189)]

/-- The two characters that decide whether their neighbours are joined. -/
def joiners : List Nat := [0x200c, 0x200d]

/-- Whether a character is a word character. -/
def isWord (c : Char) : Bool :=
  if c.toNat < 0x80 then c.isAlphanum || c == '_'
  else
    !isRecent c &&
      (wordCategories.any (·.has c) || inRanges framedLetterRanges c.toNat ||
        joiners.contains c.toNat)

/-- The longest run of word characters that a text ends with. -/
def wordEnd (chars : List Char) : List Char := (chars.reverse.takeWhile isWord).reverse

end Stencil.Text
