import Stencil.Body.Node
import Stencil.Options

/-! # Outline of a template

Every directive of a template in order, as rendering will treat it, without any data.
-/

namespace Stencil

/-- What a listed directive does. -/
inductive Outline.Role where
  /-- It shows a value, under a hint. -/
  | value (hint : Hint)
  /-- It repeats its body, and calls every item by a name. -/
  | loop (itemName : String)
deriving DecidableEq, Repr

/-- One directive of a template: its path, what it does, and how many loops stand around it. -/
structure Outline.Entry where
  path : String
  role : Outline.Role
  depth : Nat
  place : Place
deriving DecidableEq, Repr

namespace Outline

/-- The entry of a node, if it is a directive. -/
def ofNode? (options : Options) : List String × Node → Option Entry
  | (_, .text _) => none
  | (loops, .value path position) =>
    some ⟨path, .value (options.hintFor path), loops.length, position.toPlace⟩
  | (loops, .loop collection position _) =>
    some ⟨collection, .loop (options.aliasFor collection), loops.length, position.toPlace⟩

/-- The directives of a template in order. -/
def ofParsed (options : Options) (parsed : Parsed) : List Entry :=
  parsed.walk.filterMap (ofNode? options)

/-- The word for what a directive is. -/
def Entry.kindName (entry : Entry) : String :=
  match entry.role with
  | .value _ => "variable"
  | .loop _ => "loop"

/-- The name of the items, for a loop. -/
def Entry.itemName? (entry : Entry) : Option String :=
  match entry.role with
  | .value _ => none
  | .loop name => some name

/-- The hint, for a value. -/
def Entry.hint? (entry : Entry) : Option Hint :=
  match entry.role with
  | .value hint => some hint
  | .loop _ => none

/-- An entry as a JSON object. -/
def Entry.toJson (entry : Entry) : Json :=
  .object ([("kind", .string entry.kindName), ("path", .string entry.path),
    ("alias", Json.ofOption .string entry.itemName?),
    ("hint", Json.ofOption (fun hint => .string hint.name) entry.hint?),
    ("depth", Json.ofNat entry.depth)] ++ Warning.placeMembers entry.place)

end Outline

end Stencil
