import Stencil.Proofs.Template.Call

/-! # The built-in templates parse

The text of a built-in template is given line by line, so it is read over the characters that its
lines consist of.
-/

namespace Stencil

/-- Lines of text, and the characters of all of them. -/
inductive Spelled : List String → List Char → Prop
  | nil : Spelled [] []
  | cons {line : String} {lines : List String} {chars rest : List Char}
      (same : line = String.ofList chars) (behind : Spelled lines rest) :
      Spelled (line :: lines) (chars ++ rest)

theorem Spelled.toList_join {lines : List String} {chars : List Char}
    (spelled : Spelled lines chars) : (String.join lines).toList = chars := by
  induction spelled with
  | nil => rfl
  | cons same _ ih => rw [String.join_cons, String.toList_append, same, String.toList_ofList, ih]

/-- The tokens of a body given by its characters. -/
def Token.ofChars (chars : List Char) : List Token :=
  let (lead, stops) := Piece.cut .start (Piece.scan chars)
  Token.ofStops true false ⟨.start, lead⟩ stops

theorem Parsed.exists_of_spelled {lines : List String} {chars : List Char}
    (spelled : Spelled lines chars) (parses : (Node.ofTokens (Token.ofChars chars)).isOk) :
    ∃ parsed, Parsed.ofBody (String.join lines) = .ok parsed := by
  rw [← spelled.toList_join] at parses
  cases made : Node.ofTokens (Token.ofChars (String.join lines).toList) with
  | ok nodes => exact ⟨_, congrArg (Except.map _) made⟩
  | error fault =>
    rw [made] at parses
    cases parses

namespace Kind

theorem seedBody?_parses {kind : Kind} {body : String} (given : kind.seedBody? = some body) :
    ∃ parsed, Parsed.ofBody body = .ok parsed := by
  cases kind with
  | other name => cases given
  | _ =>
    cases given
    apply Parsed.exists_of_spelled
    · repeat apply Spelled.cons rfl
      exact .nil
    · decide +kernel

/-- A built-in template is valid, and its identifier is that of its kind. -/
theorem of_mem_seeds {template : Template} (member : template ∈ seeds) :
    template.Valid ∧ template.id = template.kind.seedId := by
  obtain ⟨kind, _, made⟩ := List.mem_filterMap.mp member
  obtain ⟨body, given, rfl⟩ := Option.map_eq_some_iff.mp made
  exact ⟨seedBody?_parses given, rfl⟩

end Kind

end Stencil
