import Stencil.Text.Blank
import Stencil.Text.Dotted

/-! # Directives

What may stand between two opening and two closing braces: a path, `#each` with the path of a
collection, or `/each`. Blanks around it do not count.
-/

namespace Stencil

/-- A directive of a template. -/
inductive Directive where
  /-- Show the value at a path. -/
  | value (path : String)
  /-- Repeat what follows for every item of the collection at a path. -/
  | each (collection : String)
  /-- End the innermost repetition. -/
  | close
deriving DecidableEq, Repr

namespace Directive

/-- Whether a directive begins or ends a loop. -/
def isLoop : Directive → Bool
  | value _ => false
  | each _ => true
  | close => true

/-- The collection behind `#each`: spaces or tabs, then a path. -/
def readCollection? (chars : List Char) : Option Directive :=
  let path := chars.dropWhile Text.isIndent
  if path.length < chars.length ∧ Text.isPath path then some (.each (String.ofList path)) else none

/-- The directive that the text between the braces stands for. -/
def read? (inner : List Char) : Option Directive :=
  match Text.trim inner with
  | '#' :: 'e' :: 'a' :: 'c' :: 'h' :: rest => readCollection? rest
  | ['/', 'e', 'a', 'c', 'h'] => some .close
  | path => if Text.isPath path then some (.value (String.ofList path)) else none

end Directive

end Stencil
