import Stencil.Text.Distance

/-! # Suggestions

Names that a misspelt name may stand for: at most three, within a small edit distance, the closest
first and equally close ones in the order of their bytes. The order and repetition of the available
names do not matter.
-/

namespace Stencil.Suggestion

/-- The number of edits a suggestion may be away from a name: one up to three characters, else two. -/
def tolerance (name : String) : Nat := if name.length ≤ 3 then 1 else 2

/-- Closer names first, equally close ones by their characters. -/
def closer (a b : Nat × String) : Bool := a.1 < b.1 || (a.1 == b.1 && !(b.2 < a.2))

/-- The available names near a name with their distances, as they are given. -/
def near (name : String) (available : List String) : List (Nat × String) :=
  available.filterMap fun other =>
    let distance := Text.editDistance name.toList other.toList
    if other ≠ name ∧ distance ≤ tolerance name then some (distance, other) else none

/-- The candidates behind one that is kept, without those that follow directly and have its name. -/
def dropRepeats (kept : Nat × String) : List (Nat × String) → List (Nat × String)
  | [] => []
  | next :: rest =>
    if next.2 = kept.2 then dropRepeats kept rest else next :: dropRepeats next rest

/-- Candidates, of those with the same name that stand together only the first. -/
def withoutRepeats : List (Nat × String) → List (Nat × String)
  | [] => []
  | first :: rest => first :: dropRepeats first rest

/-- The candidates for a name with their distances, from the closest on. -/
def candidates (name : String) (available : List String) : List (Nat × String) :=
  withoutRepeats ((near name available).mergeSort closer)

/-- The suggestions for a name. -/
def suggest (name : String) (available : List String) : List String :=
  ((candidates name available).take 3).map (·.2)

end Stencil.Suggestion
