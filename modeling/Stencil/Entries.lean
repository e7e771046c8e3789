/-! # Entries by key

A map is a list of entries, one for each key: in the order in which the keys were put in, so that
whatever is listed from it comes out the same every time, or in ascending order of the keys.
-/

namespace Stencil

variable {κ α : Type} [DecidableEq κ]

/-- A map's entries with a key bound to a value: in its old place if it has one, else at the end. -/
def putEntry (key : κ) (value : α) : List (κ × α) → List (κ × α)
  | [] => [(key, value)]
  | (other, old) :: rest =>
    if other = key then (key, value) :: rest else (other, old) :: putEntry key value rest

/-- A map's entries without the one for a key; the others stay in their order. -/
def dropEntry (key : κ) (entries : List (κ × α)) : List (κ × α) := entries.filter (·.1 ≠ key)

/-- The entries of a map in ascending order of keys, with one more; a key keeps its latest value. -/
def putSorted (key : String) (value : α) : List (String × α) → List (String × α)
  | [] => [(key, value)]
  | (other, old) :: rest =>
    if key = other then (key, value) :: rest
    else if key < other then (key, value) :: (other, old) :: rest
    else (other, old) :: putSorted key value rest

end Stencil
