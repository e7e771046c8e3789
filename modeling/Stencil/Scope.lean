import Stencil.Suggestion
import Stencil.Text.Dotted
import Stencil.Value

/-! # Scopes

Where a path is looked up: the data of a template, and the items of the loops around the directive,
innermost first. The items can be left one by one; the data stays.
-/

namespace Stencil

/-- An item of a loop: the collection it comes from, the name it goes by, and its value. -/
structure Scope.Item where
  collection : String
  name : String
  value : Value

/-- The data of a template and the items of the loops around a directive, innermost first. -/
structure Scope where
  root : Value
  items : List Scope.Item

namespace Scope

/-- The scope outside all loops. -/
def ofData (data : Value) : Scope := ⟨data, []⟩

/-- The scope inside a loop, for one of its items. -/
def enter (scope : Scope) (item : Item) : Scope := { scope with items := item :: scope.items }

/-- The scope outside the innermost loop. -/
def leave (scope : Scope) : Scope := { scope with items := scope.items.tail }

/-- The number of loops. -/
def depth (scope : Scope) : Nat := scope.items.length

/-- The collections of the loops, outermost first. -/
def collections (scope : Scope) : List String := scope.items.reverse.map (·.collection)

theorem collections_enter (scope : Scope) (item : Item) :
    (scope.enter item).collections = scope.collections ++ [item.collection] := by
  simp [collections, enter]

/-- The value at a path from an item: behind its name, else among its own keys. -/
def Item.resolve? (item : Item) (segments : List String) : Option Value :=
  let named :=
    match segments with
    | first :: rest => if first = item.name then item.value.lookup? rest else none
    | [] => none
  named <|> item.value.lookup? segments

/-- The value at a path: from the innermost item that has the whole path, else from the data. -/
def resolveSegments? (scope : Scope) (segments : List String) : Option Value :=
  scope.items.findSome? (·.resolve? segments) <|> scope.root.lookup? segments

/-- The value at a dotted path. -/
def resolve? (scope : Scope) (path : String) : Option Value :=
  scope.resolveSegments? (Text.segments path)

/-- The names a path can begin with, innermost first, each once. -/
def names (scope : Scope) : List String :=
  (scope.items.flatMap (fun item => item.name :: item.value.keys?.getD []) ++
    scope.root.keys?.getD []).eraseDups

/-- The longest beginning of a path with at most `length` segments that resolves, and its value. -/
def anchor? (scope : Scope) (segments : List String) : Nat → Option (Nat × Value)
  | 0 => none
  | length + 1 =>
    match scope.resolveSegments? (segments.take (length + 1)) with
    | some value => some (length + 1, value)
    | none => scope.anchor? segments length

/-- Paths near one that does not resolve. The segment behind the longest beginning that resolves is
compared with the keys found there; if not even the first segment resolves, it is compared with all
names in scope. -/
def suggest (scope : Scope) (path : String) : List String :=
  let segments := Text.segments path
  let (length, available) :=
    match scope.anchor? segments (segments.length - 1) with
    | some (length, parent) => (length, parent.keys?.getD [])
    | none => (0, scope.names)
  match segments.drop length with
  | wrong :: rest =>
    (Suggestion.suggest wrong available).map fun name =>
      Text.joinDots (segments.take length ++ name :: rest)
  | [] => []

end Scope

end Stencil
