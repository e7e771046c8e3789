import Stencil.Body.Piece
import Stencil.Warning

/-! # Tokens

A template body as directives with the text between them. A loop directive that stands alone on its
line takes the line with it: the indentation in front of it and everything behind it up to and with
the line break. Whether it stands alone is decided on the text as it is written, so loop directives
on consecutive lines all go. A token's position is that of the text or directive it was made from.
-/

namespace Stencil

/-- A token of a template body: literal text or a directive. -/
inductive Token.Content where
  | text (text : String)
  | directive (d : Directive)
deriving DecidableEq, Repr

/-- A token and the position at which it begins. -/
structure Token where
  content : Token.Content
  position : Position
deriving DecidableEq, Repr

/-- Tokens with the warnings about the body they come from. -/
structure TokenStream where
  tokens : List Token
  warnings : List Warning

/-- Literal text between two directives, perhaps empty. -/
structure Gap where
  position : Position
  chars : List Char

/-- A directive with the text up to the next one. -/
structure Stop where
  directive : Directive
  position : Position
  gap : Gap

namespace Piece

/-- The text in front of the first directive of a body, and the directives with the text behind
each. -/
def cut (start : Position) : List Piece → List Char × List Stop
  | [] => ([], [])
  | directive d source :: rest =>
    let behind := start.after source
    let (chars, stops) := cut behind rest
    ([], ⟨d, start, behind, chars⟩ :: stops)
  | piece :: rest =>
    let (chars, stops) := cut (start.after piece.source) rest
    (piece.source ++ chars, stops)

/-- The warning about a piece at a position, if there is something to warn about. -/
def warning? (located : Position × Piece) : Option Warning :=
  match located.2 with
  | plain _ => none
  | stray chars => some (.malformed (String.ofList chars) located.1.toPlace)
  | rejected chars => some (.malformed (String.ofList chars) located.1.toPlace)
  | unclosed _ => some (.unterminated located.1.toPlace)
  | directive _ _ => none

end Piece

namespace Token

/-- A text without the spaces and tabs at its end. -/
def dropIndent (chars : List Char) : List Char := (chars.reverse.dropWhile Text.isIndent).reverse

/-- Whether only indentation stands between the end of a text and the start of its last line. -/
def endsAtLineStart (opensBody : Bool) (chars : List Char) : Bool :=
  let kept := dropIndent chars
  kept.getLast? == some '\n' || (opensBody && kept.isEmpty)

/-- The text behind the first line break, if only spaces and tabs stand in front of that. -/
def restOfLine? (endsBody : Bool) (chars : List Char) : Option (List Char) :=
  match chars.dropWhile Text.isIndent with
  | '\r' :: '\n' :: rest => some rest
  | '\n' :: rest => some rest
  | [] => if endsBody then some [] else none
  | _ => none

/-- Whether a directive takes its line with it, given the text on either side. -/
def standsAlone (d : Directive) (opensBody endsBody : Bool) (before behind : List Char) : Bool :=
  d.isLoop && endsAtLineStart opensBody before && (restOfLine? endsBody behind).isSome

/-- The text of a gap without the parts of it that belong to the lines of the directives around it. -/
def kept (gap : Gap) (endsBody dropFront dropBack : Bool) : List Char :=
  let behind := if dropFront then (restOfLine? endsBody gap.chars).getD gap.chars else gap.chars
  if dropBack then dropIndent behind else behind

/-- The token for what is kept of a gap: none if nothing is. -/
def ofGap (gap : Gap) (chars : List Char) : List Token :=
  if chars.isEmpty then [] else [⟨.text (String.ofList chars), gap.position⟩]

/-- The tokens of a gap and of the directives behind it. `dropFront` says whether the directive in
front of the gap takes its line with it. -/
def ofStops (opensBody dropFront : Bool) (gap : Gap) : List Stop → List Token
  | [] => ofGap gap (kept gap true dropFront false)
  | stop :: rest =>
    let alone := standsAlone stop.directive opensBody rest.isEmpty gap.chars stop.gap.chars
    ofGap gap (kept gap false dropFront alone) ++
      ⟨.directive stop.directive, stop.position⟩ :: ofStops false alone stop.gap rest

/-- The tokens of a body and the warnings about it. -/
def scan (body : String) : TokenStream :=
  let pieces := Piece.scan body.toList
  let (chars, stops) := Piece.cut .start pieces
  { tokens := ofStops true false ⟨.start, chars⟩ stops
    warnings := (Piece.locate .start pieces).filterMap Piece.warning? }

end Token

end Stencil
