import Stencil.Body.Fault

/-! # The tree of a template

Tokens are put together into a tree, from left to right: a loop collects what follows it until it is
closed. Text next to text is joined, so no two neighbours in the tree are both text. `flatten` takes
a tree apart again.
-/

namespace Stencil

/-- A node of a template. -/
inductive Node where
  /-- Text, copied as it is. -/
  | text (text : String)
  /-- The value at a path. -/
  | value (path : String) (position : Position)
  /-- A loop over the collection at a path. -/
  | loop (collection : String) (position : Position) (body : List Node)
deriving Repr

/-- A template as a tree, with the warnings about its body. -/
structure Parsed where
  nodes : List Node
  warnings : List Warning

namespace Node

/-- A loop that has not been closed: where it begins, and the nodes in front of it, last one first. -/
structure Opened where
  collection : String
  position : Position
  before : List Node

/-- A tree under construction: the nodes of the innermost open loop so far, last one first, and the
open loops, innermost first. -/
structure Draft where
  nodes : List Node
  opened : List Opened

/-- Nodes, last one first, with a text behind them. -/
def appendText (words : String) : List Node → List Node
  | text before :: rest => text (before ++ words) :: rest
  | nodes => text words :: nodes

/-- A tree under construction with one more token. -/
def Draft.step (draft : Draft) (token : Token) : Except Fault Draft :=
  match token.content with
  | .text words => .ok { draft with nodes := appendText words draft.nodes }
  | .directive (.value path) =>
    .ok { draft with nodes := value path token.position :: draft.nodes }
  | .directive (.each collection) =>
    if draft.opened.length < maxLoopDepth then
      .ok ⟨[], ⟨collection, token.position, draft.nodes⟩ :: draft.opened⟩
    else .error (.tooDeep collection token.position)
  | .directive .close =>
    match draft.opened with
    | inner :: outer =>
      .ok ⟨loop inner.collection inner.position draft.nodes.reverse :: inner.before, outer⟩
    | [] => .error (.unmatchedClose token.position)

/-- A finished tree: no loop may be open. -/
def Draft.finish (draft : Draft) : Except Fault (List Node) :=
  match draft.opened with
  | [] => .ok draft.nodes.reverse
  | inner :: outer => .error (.unclosed inner.collection inner.position (outer.length + 1))

/-- The tree that tokens make. -/
def ofTokens (tokens : List Token) : Except Fault (List Node) :=
  (tokens.foldlM Draft.step ⟨[], []⟩).bind Draft.finish

mutual

/-- A node as contents of tokens. -/
def flatten : Node → List Token.Content
  | text words => [.text words]
  | value path _ => [.directive (.value path)]
  | loop collection _ body => .directive (.each collection) :: flattenAll body ++ [.directive .close]

/-- Nodes as contents of tokens. -/
def flattenAll : List Node → List Token.Content
  | [] => []
  | node :: rest => node.flatten ++ flattenAll rest

end

mutual

/-- A node and the nodes inside it, in the order in which they stand in the body, each with the
collections of the loops around it, outermost first. -/
def walk (loops : List String) : Node → List (List String × Node)
  | text words => [(loops, text words)]
  | value path position => [(loops, value path position)]
  | loop collection position body =>
    (loops, loop collection position body) :: walkAll (loops ++ [collection]) body

/-- Nodes and the nodes inside them. -/
def walkAll (loops : List String) : List Node → List (List String × Node)
  | [] => []
  | node :: rest => node.walk loops ++ walkAll loops rest

end

end Node

namespace Parsed

/-- The template that a stream of tokens makes. -/
def ofStream (stream : TokenStream) : Except Fault Parsed :=
  (Node.ofTokens stream.tokens).map fun nodes => ⟨nodes, stream.warnings⟩

/-- The template that a body makes. -/
def ofBody (body : String) : Except Fault Parsed := ofStream (Token.scan body)

/-- Every node of a template in order, with the collections of the loops around it. -/
def walk (parsed : Parsed) : List (List String × Node) := Node.walkAll [] parsed.nodes

end Parsed

end Stencil
