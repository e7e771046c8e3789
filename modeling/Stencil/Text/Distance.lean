/-! # Edit distance

The least number of insertions, deletions and replacements of single characters that turn one text
into another. The table is kept one row at a time: a row holds the distances from one text to every
suffix of the other, the longest suffix first.
-/

namespace Stencil.Text

/-- The distances from the empty text to every suffix of a text. -/
def emptyRow : List Char → List Nat
  | [] => [0]
  | _ :: rest => (rest.length + 1) :: emptyRow rest

/-- The row for a text with `c` put in front, given the row for that text. -/
def nextRow (c : Char) : List Char → List Nat → List Nat
  | [], row => [row.headD 0 + 1]
  | d :: rest, row =>
    let tail := nextRow c rest row.tail
    let diagonal := row.tail.headD 0
    let here := if c = d then diagonal else 1 + min diagonal (min (row.headD 0) (tail.headD 0))
    here :: tail

/-- The number of single-character edits between two texts. -/
def editDistance (a b : List Char) : Nat :=
  (a.foldr (fun c row => nextRow c b row) (emptyRow b)).headD 0

example : editDistance "kitten".toList "sitting".toList = 3 := by decide
example : editDistance "price".toList "pric".toList = 1 := by decide

end Stencil.Text
