import Stencil.Json.Basic
import Stencil.Json.Quoted
import Stencil.Decimal.Layout

/-! # Writing JSON

Two forms: `compact` without any whitespace, and `pretty` with one item or member on a line. Members
keep their order, and text outside ASCII is written as it is.
-/

namespace Stencil.Json

/-- The text of a number; a double that is not finite has none and is written as `null`. -/
def Number.text : Number → List Char
  | integer n => (Decimal.ofInt n).toList
  | float x => ((Decimal.markedFloat? x).getD "null").toList

mutual

/-- A value without whitespace. -/
def compact : Json → List Char
  | null => ['n', 'u', 'l', 'l']
  | bool true => ['t', 'r', 'u', 'e']
  | bool false => ['f', 'a', 'l', 's', 'e']
  | number n => n.text
  | string s => Quoted.encode s
  | array [] => ['[', ']']
  | array (item :: rest) => '[' :: item.compact ++ compactItems rest
  | object [] => ['\x7b', '\x7d']
  | object ((key, item) :: rest) =>
    '\x7b' :: Quoted.encode key ++ ':' :: item.compact ++ compactMembers rest

/-- The items behind the first one, each with the comma in front, and the closing bracket. -/
def compactItems : List Json → List Char
  | [] => [']']
  | item :: rest => ',' :: item.compact ++ compactItems rest

/-- The members behind the first one, each with the comma in front, and the closing brace. -/
def compactMembers : List (String × Json) → List Char
  | [] => ['\x7d']
  | (key, item) :: rest =>
    ',' :: Quoted.encode key ++ ':' :: item.compact ++ compactMembers rest

end

/-- The start of a line at a depth. -/
def newLine (depth : Nat) : List Char := '\n' :: List.replicate (2 * depth) ' '

mutual

/-- A value with two spaces of indentation for every array and object around it. -/
def prettyAt (depth : Nat) : Json → List Char
  | array [] => ['[', ']']
  | array (item :: rest) =>
    '[' :: newLine (depth + 1) ++ prettyAt (depth + 1) item ++ prettyItems depth rest
  | object [] => ['\x7b', '\x7d']
  | object ((key, item) :: rest) =>
    '\x7b' :: newLine (depth + 1) ++ Quoted.encode key ++ ':' :: ' ' ::
      prettyAt (depth + 1) item ++ prettyMembers depth rest
  | null => compact .null
  | bool b => compact (.bool b)
  | number n => compact (.number n)
  | string s => compact (.string s)

/-- The items behind the first one, each on its line, and the closing bracket on its own. -/
def prettyItems (depth : Nat) : List Json → List Char
  | [] => newLine depth ++ [']']
  | item :: rest =>
    ',' :: newLine (depth + 1) ++ prettyAt (depth + 1) item ++ prettyItems depth rest

/-- The members behind the first one, each on its line, and the closing brace on its own. -/
def prettyMembers (depth : Nat) : List (String × Json) → List Char
  | [] => newLine depth ++ ['\x7d']
  | (key, item) :: rest =>
    ',' :: newLine (depth + 1) ++ Quoted.encode key ++ ':' :: ' ' ::
      prettyAt (depth + 1) item ++ prettyMembers depth rest

end

/-- A value as text without whitespace. -/
def toCompact (json : Json) : String := String.ofList json.compact

/-- A value as text with one item or member on a line. -/
def toPretty (json : Json) : String := String.ofList (prettyAt 0 json)

end Stencil.Json
