/-! # Dotted paths

A path names a value by the keys that lead to it, joined by dots. Splitting never yields an empty
list: a text without a dot is its own only segment.
-/

namespace Stencil.Text

/-- The segments of a path, the empty ones included. -/
def segments (path : String) : List String := (path.toList.splitOn '.').map String.ofList

/-- The last segment of a path. -/
def lastSegment (path : String) : String := (segments path).getLastD path

/-- The path with the given segments. -/
def joinDots (parts : List String) : String := String.intercalate "." parts

/-- The characters of a segment in a template: letters, digits and low lines of ASCII. -/
def isSegmentChar (c : Char) : Bool := c.isAlphanum || c == '_'

/-- Whether a text is a path that a template may write: no segment is empty. -/
def isPath (chars : List Char) : Bool :=
  (chars.splitOn '.').all fun segment => !segment.isEmpty && segment.all isSegmentChar

end Stencil.Text
