/-! # Doubled characters

Directives stand between two doubled characters. Both searches here return the text on either
side of a pair; the pair itself is left out, and nothing else is lost.
-/

namespace Stencil.Text

/-- The text before the first two `c`s in a row, and the text after them. -/
def cutAtPair? (c : Char) : List Char → Option (List Char × List Char)
  | a :: b :: rest =>
    if a = c ∧ b = c then some ([], rest)
    else (cutAtPair? c (b :: rest)).map fun (before, behind) => (a :: before, behind)
  | _ => none

/-- The text before the last two `c`s in a row, and the text after them. -/
def cutAtLastPair? (c : Char) (chars : List Char) : Option (List Char × List Char) :=
  (cutAtPair? c chars.reverse).map fun (behind, before) => (before.reverse, behind.reverse)

theorem eq_of_cutAtPair? {c : Char} {chars before behind : List Char}
    (found : cutAtPair? c chars = some (before, behind)) : chars = before ++ c :: c :: behind := by
  fun_induction cutAtPair? c chars generalizing before behind with
  | case1 a b rest pair => simp_all
  | case2 a b rest single ih =>
    obtain ⟨⟨front, back⟩, inner, same⟩ := Option.map_eq_some_iff.mp found
    obtain ⟨rfl, rfl⟩ := Prod.mk.inj same
    simp [ih inner]
  | case3 => simp at found

theorem length_lt_of_cutAtPair? {c : Char} {chars before behind : List Char}
    (found : cutAtPair? c chars = some (before, behind)) : behind.length < chars.length := by
  simp [eq_of_cutAtPair? found]
  omega

theorem eq_of_cutAtLastPair? {c : Char} {chars before behind : List Char}
    (found : cutAtLastPair? c chars = some (before, behind)) :
    chars = before ++ c :: c :: behind := by
  obtain ⟨⟨back, front⟩, inner, same⟩ := Option.map_eq_some_iff.mp found
  obtain ⟨rfl, rfl⟩ := Prod.mk.inj same
  simpa using congrArg List.reverse (eq_of_cutAtPair? inner)

end Stencil.Text
