import Stencil.Body.Directive
import Stencil.Text.Pairs
import Stencil.Text.Position

/-! # Pieces of a body

A template body is cut into pieces without losing a character: the sources of the pieces, put
together, are the body (`source_scan`). A directive opens at the last two opening braces before the
next two closing ones, so further opening braces in front of it are stray text.
-/

namespace Stencil

/-- A piece of a template body, with the characters it consists of. -/
inductive Piece where
  /-- Text that nothing is to be said about. -/
  | plain (chars : List Char)
  /-- Text from two opening braces up to the ones that open the next span. -/
  | stray (chars : List Char)
  /-- A span between braces that is no directive. -/
  | rejected (chars : List Char)
  /-- Two opening braces that nothing closes, and the rest of the body. -/
  | unclosed (chars : List Char)
  /-- A directive. -/
  | directive (d : Directive) (chars : List Char)

namespace Piece

/-- The characters of a piece. -/
def source : Piece → List Char
  | plain chars => chars
  | stray chars => chars
  | rejected chars => chars
  | unclosed chars => chars
  | directive _ chars => chars

/-- A span with its braces. -/
def braced (inner : List Char) : List Char := '{' :: '{' :: inner ++ ['}', '}']

/-- The span with the given text between its braces, as a directive if it is one. -/
def ofSpan (inner : List Char) : Piece :=
  match Directive.read? inner with
  | some d => directive d (braced inner)
  | none => rejected (braced inner)

/-- What stands from two opening braces up to the next two closing ones: the text in front of the
last two opening braces, and the span that these open. -/
def ofOpening (inner : List Char) : List Piece :=
  match Text.cutAtLastPair? '{' ('{' :: '{' :: inner) with
  | some (front, core) => [if front.length < 2 then plain front else stray front, ofSpan core]
  | none => [ofSpan inner]

/-- The pieces of a body in order; some may be empty. -/
def scan (chars : List Char) : List Piece :=
  match _opening : Text.cutAtPair? '{' chars with
  | none => [plain chars]
  | some (lead, rest) =>
    match _closing : Text.cutAtPair? '}' rest with
    | none => [plain lead, unclosed ('{' :: '{' :: rest)]
    | some (inner, behind) => plain lead :: ofOpening inner ++ scan behind
termination_by chars.length
decreasing_by
  have := Text.length_lt_of_cutAtPair? _opening
  have := Text.length_lt_of_cutAtPair? _closing
  omega

/-- The pieces with the position at which each begins. -/
def locate (start : Position) : List Piece → List (Position × Piece)
  | [] => []
  | piece :: rest => (start, piece) :: locate (start.after piece.source) rest

@[simp] theorem source_ofSpan (inner : List Char) : (ofSpan inner).source = braced inner := by
  unfold ofSpan
  split <;> rfl

theorem source_ofOpening (inner : List Char) :
    (ofOpening inner).flatMap source = braced inner := by
  unfold ofOpening
  split
  · next front core found =>
    have whole := Text.eq_of_cutAtLastPair? found
    have both : (if front.length < 2 then plain front else stray front).source = front := by
      split <;> rfl
    simp only [List.flatMap_cons, List.flatMap_nil, both, source_ofSpan, List.append_nil, braced]
    simpa using congrArg (· ++ ['}', '}']) whole.symm
  · simp

theorem source_scan (chars : List Char) : (scan chars).flatMap source = chars := by
  fun_induction scan chars with
  | case1 => simp [source]
  | case2 chars lead rest opening =>
    simp [source, Text.eq_of_cutAtPair? opening]
  | case3 chars lead rest opening inner behind closing ih =>
    have := Text.eq_of_cutAtPair? closing
    simp [source, source_ofOpening, ih, Text.eq_of_cutAtPair? opening, this, braced]

end Piece

end Stencil
