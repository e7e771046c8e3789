import Stencil.Body.Node
import Stencil.Format
import Stencil.Scope
import Stencil.Text.Entities

/-! # Rendering

A template is filled with data node by node: text is copied, a directive shows its value with
special characters replaced by entities, and a loop repeats its body for every item. Data that is
missing leaves a gap and a warning; each distinct warning is given once, in the order of its first
occurrence.
-/

namespace Stencil

/-- A rendered template. -/
structure Rendered where
  output : String
  warnings : List Warning

/-- A rendering in progress: the scope at this point, the output so far, and the warnings so far. -/
structure Progress where
  scope : Scope
  output : String
  warnings : List Warning

namespace Progress

/-- The progress with a text written. -/
def write (progress : Progress) (text : String) : Progress :=
  { progress with output := progress.output ++ text }

/-- The progress with a warning, unless there is the same one already. -/
def warn (progress : Progress) (warning : Warning) : Progress :=
  if warning ∈ progress.warnings then progress
  else { progress with warnings := progress.warnings ++ [warning] }

/-- The progress inside a loop, for one of its items. -/
def enter (progress : Progress) (item : Scope.Item) : Progress :=
  { progress with scope := progress.scope.enter item }

/-- The progress behind an item. -/
def leave (progress : Progress) : Progress := { progress with scope := progress.scope.leave }

/-- What a directive shows for a value: nothing for a map. -/
def showValue (options : Options) (path : String) (place : Place) (value : Value)
    (progress : Progress) : Progress :=
  match value with
  | .map _ => progress.warn (.notScalar path place)
  | value => progress.write (escapeMarkup (value.format options (options.hintFor path)))

/-- A directive rendered. -/
def renderValue (options : Options) (path : String) (place : Place) (progress : Progress) :
    Progress :=
  match progress.scope.resolve? path with
  | some value => progress.showValue options path place value
  | none =>
    progress.warn
      (.unresolved path place progress.scope.collections (progress.scope.suggest path))

/-- The items of a loop, or the warning about what stands in their place. -/
def loopItems (progress : Progress) (collection : String) (place : Place) :
    Except Warning (List Value) :=
  match progress.scope.resolve? collection with
  | some (.list items) => .ok items
  | some other => .error (.notACollection collection other.kindName place)
  | none => .error (.missingCollection collection place progress.scope.collections)

end Progress

mutual

/-- A node rendered behind what was rendered before. -/
def Node.render (options : Options) (progress : Progress) : Node → Progress
  | .text words => progress.write words
  | .value path position => progress.renderValue options path position.toPlace
  | .loop collection position body =>
    match progress.loopItems collection position.toPlace with
    | .ok items =>
      let name := options.aliasFor collection
      items.foldl
        (fun progress item =>
          (Node.renderAll options (progress.enter ⟨collection, name, item⟩) body).leave)
        progress
    | .error warning => progress.warn warning

/-- Nodes rendered one after the other. -/
def Node.renderAll (options : Options) (progress : Progress) : List Node → Progress
  | [] => progress
  | node :: rest => Node.renderAll options (node.render options progress) rest

end

/-- A template rendered with data. The warnings about its body come first. -/
def Parsed.render (parsed : Parsed) (data : Value) (options : Options) : Rendered :=
  let start := parsed.warnings.foldl Progress.warn ⟨Scope.ofData data, "", []⟩
  let finish := Node.renderAll options start parsed.nodes
  ⟨finish.output, finish.warnings⟩

/-- A rendered template as a JSON object. -/
def Rendered.toJson (rendered : Rendered) : Json :=
  .object [("output", .string rendered.output),
    ("warnings", .array (rendered.warnings.map Warning.toJson))]

end Stencil
