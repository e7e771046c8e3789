import Stencil.Json.Basic
import Stencil.Text.Position
import Stencil.Decimal.Digits

/-! # Warnings

What is wrong with a template or its data without keeping it from being rendered. A warning points
at the opening braces of the directive concerned.
-/

namespace Stencil

/-- A problem that leaves a gap in the output or braces in the text. -/
inductive Warning where
  /-- No value is found at the path of a directive. -/
  | unresolved (path : String) (place : Place) (loops suggestions : List String)
  /-- No value is found at the path of a loop, which is skipped. -/
  | missingCollection (collection : String) (place : Place) (loops : List String)
  /-- The value at the path of a loop is no list. -/
  | notACollection (collection kind : String) (place : Place)
  /-- The value at the path of a directive is a map, which has no text. -/
  | notScalar (path : String) (place : Place)
  /-- A span between braces is no directive and stays as text. -/
  | malformed (text : String) (place : Place)
  /-- Opening braces without closing ones stay as text. -/
  | unterminated (place : Place)
deriving DecidableEq, Repr

namespace Warning

/-- Where a warning points. -/
def place : Warning → Place
  | unresolved _ place _ _ => place
  | missingCollection _ place _ => place
  | notACollection _ _ place => place
  | notScalar _ place => place
  | malformed _ place => place
  | unterminated place => place

/-- The loops around a directive, in words. -/
def inside (loops : List String) : String :=
  if loops.isEmpty then "" else " (inside " ++ String.intercalate " > " loops ++ ")"

/-- What a warning says, without the place. -/
def complaint : Warning → String
  | unresolved path _ loops suggestions =>
    "unresolved variable '" ++ path ++ "'" ++ inside loops ++
      (if suggestions.isEmpty then ""
        else "; did you mean: " ++ String.intercalate ", " suggestions ++ "?")
  | missingCollection collection _ loops =>
    "loop collection '" ++ collection ++ "' not found" ++ inside loops
  | notACollection collection kind _ =>
    "loop collection '" ++ collection ++ "' is a " ++ kind ++ ", not a list"
  | notScalar path _ => "variable '" ++ path ++ "' is a map and renders as empty"
  | malformed text _ => "malformed directive '" ++ text ++ "' kept as text"
  | unterminated _ => "'\x7b\x7b' without closing '\x7d\x7d' kept as text"

/-- A line and a column with a colon between them. -/
def placeText (place : Place) : String :=
  Decimal.ofNat place.line ++ ":" ++ Decimal.ofNat place.column

/-- A warning in words. -/
def message (warning : Warning) : String := placeText warning.place ++ ": " ++ warning.complaint

/-- The members that say where a warning points. -/
def placeMembers (place : Place) : List (String × Json) :=
  [("line", Json.ofNat place.line), ("column", Json.ofNat place.column)]

/-- A warning as the members of a JSON object. -/
def members : Warning → List (String × Json)
  | unresolved path place loops suggestions =>
    ("kind", .string "unresolved_variable") :: ("path", .string path) :: placeMembers place ++
      [("scope", Json.ofTexts loops), ("suggestions", Json.ofTexts suggestions)]
  | missingCollection collection place loops =>
    ("kind", .string "missing_collection") :: ("collection", .string collection) ::
      placeMembers place ++ [("scope", Json.ofTexts loops)]
  | notACollection collection kind place =>
    ("kind", .string "not_a_collection") :: ("collection", .string collection) ::
      ("found", .string kind) :: placeMembers place
  | notScalar path place =>
    ("kind", .string "non_scalar_value") :: ("path", .string path) :: placeMembers place
  | malformed text place =>
    ("kind", .string "malformed_directive") :: ("text", .string text) :: placeMembers place
  | unterminated place => ("kind", .string "unterminated_directive") :: placeMembers place

/-- A warning as a JSON object. -/
def toJson (warning : Warning) : Json := .object warning.members

end Warning

end Stencil
