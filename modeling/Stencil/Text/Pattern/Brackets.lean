import Stencil.Text.Pattern.Escape

/-! # Sets in brackets

A set of characters in brackets holds characters, ranges, escapes, sets with a name between colons
and further sets in brackets. Two ampersands, two hyphens or two tildes stand for what two sets have
in common, for the first without the second, and for what is in just one of them; they bind less
than writing side by side and are taken from left to right. A caret in front makes the complement.
-/

namespace Stencil.Text.Pattern

/-- How two sets make one. -/
inductive Combination where
  /-- What is in both. -/
  | common
  /-- What is in the first alone. -/
  | difference
  /-- What is in just one of them. -/
  | exclusive

/-- The set that two sets make. -/
def Combination.apply (combination : Combination) (first second : Class) : Class where
  accepts c :=
    match combination with
    | common => first.accepts c && second.accepts c
    | difference => first.accepts c && !second.accepts c
    | exclusive => first.accepts c != second.accepts c
  depth := 1 + max first.depth second.depth
  size := first.size + second.size

/-- The set that is written as some sets side by side. -/
def Class.together : List Class → Class
  | [] => { accepts := fun _ => false, size := 0 }
  | [set] => set
  | sets =>
    { accepts := fun c => sets.any (·.accepts c)
      depth := 1 + sets.foldl (fun depth set => max depth set.depth) 0
      size := sets.foldl (fun size set => size + set.size) 0 }

/-- Brackets that are still open. -/
structure Bracket where
  /-- Whether the complement is meant. -/
  negated : Bool
  /-- The set in front of the last combining sign, and that sign. -/
  pending : Option (Class × Combination) := none
  /-- What stands side by side behind that, the last first. -/
  items : List Class

namespace Bracket

/-- The brackets with one more item. -/
def add (bracket : Bracket) (set : Class) : Bracket := { bracket with items := set :: bracket.items }

/-- The set of all that has been read between the brackets. -/
def soFar (flags : Flags) (bracket : Bracket) : Class :=
  let last := Class.together bracket.items
  match bracket.pending with
  | some (first, combination) => combination.apply (first.folded flags) (last.folded flags)
  | none => last

/-- The brackets behind a combining sign. -/
def combine (flags : Flags) (combination : Combination) (bracket : Bracket) : Bracket :=
  { bracket with pending := some (bracket.soFar flags, combination), items := [] }

/-- The set in brackets, once they are closed. Beyond ASCII, a complement has no place among
bytes. -/
def close? (flags : Flags) (bracket : Bracket) : Option Class :=
  let set := (bracket.soFar flags).folded flags
  if bracket.negated && !flags.unicode then none
  else some { set.complementIf bracket.negated with depth := set.depth + 1 }

/-- Opening brackets, and what is left behind them. Hyphens in front, or else a closing bracket,
stand for themselves. -/
def start? (flags : Flags) (chars : List Char) : Option (Bracket × List Char) :=
  let inside := flags.next chars
  let negated := inside.head? = some '^'
  let rest := if negated then flags.next (inside.drop 1) else inside
  let (hyphens, rest) := gather flags (· = '-') rest
  let bracket : Bracket := { negated, items := hyphens.map Class.single }
  match hyphens, rest with
  | _, [] => none
  | [], ']' :: more =>
    match flags.next more with
    | [] => none
    | more => some (bracket.add (.single ']'), more)
  | _, rest => some (bracket, rest)

/-- A set with a name between colons, and what is left; nothing if it is something else. -/
def named? (flags : Flags) (chars : List Char) : Option (Class × Bool × List Char) :=
  match chars with
  | '[' :: ':' :: rest =>
    let negated := rest.head? = some '^'
    let inside := if negated then rest.drop 1 else rest
    let name := inside.takeWhile (· ≠ ':')
    match inside.drop name.length with
    | ':' :: ']' :: left =>
      (Class.ofName? (String.ofList name)).map fun set => (set.folded flags, negated, left)
    | _ => none
  | _ => none

/-- The character behind the first one that counts. -/
def behind (flags : Flags) (chars : List Char) : Option Char :=
  let rest := chars.drop 1
  if flags.spaced then
    match rest.dropWhile isBlank with
    | '#' :: more => (more.dropWhile isBlank).head?.or rest.head?
    | c :: _ => some c
    | [] => rest.head?
  else rest.head?

/-- A character or an escape, and what is left. -/
def item? (flags : Flags) : List Char → Option (Escape × List Char)
  | [] => none
  | '\\' :: rest => Escape.read flags rest
  | c :: rest => some (.char c, rest)

/-- The set that an item stands for. Conditions on a place have no meaning in brackets, and bytes
have none beyond ASCII. -/
def set? (flags : Flags) : Escape → Option Class
  | .char c => if flags.unicode || c.toNat < 0x80 then some (.single c) else none
  | .set set => some set
  | .between _ => none

/-- The set from one item to another: both have to be characters in the right order. -/
def range? (flags : Flags) : Escape → Escape → Option Class
  | .char low, .char high =>
    if low ≤ high && (flags.unicode || high.toNat < 0x80) then some (.range low high) else none
  | _, _ => none

/-- A character, a range or an escape as a set, and what is left. A hyphen makes a range unless it is
the last character or doubled. -/
def readItem (flags : Flags) (chars : List Char) : Option (Class × List Char) := do
  let (first, left) ← item? flags chars
  let left := flags.next left
  if left.isEmpty then none
  let single := left.head? ≠ some '-' || behind flags left = some ']' || behind flags left = some '-'
  if single then return (← set? flags first, left)
  let (last, left) ← item? flags (flags.next (left.drop 1))
  return (← range? flags first last, left)

/-- The combining sign in front of a text, and what is left behind it. -/
def combination? : List Char → Option (Combination × List Char)
  | '&' :: '&' :: rest => some (.common, rest)
  | '-' :: '-' :: rest => some (.difference, rest)
  | '~' :: '~' :: rest => some (.exclusive, rest)
  | _ => none

/-- The rest of a set in brackets that are open, the innermost first. Every step reads a character
at least. -/
def readWithin (flags : Flags) : Nat → List Bracket → List Char → Option (Class × List Char)
  | 0, _, _ => none
  | _ + 1, [], _ => none
  | fuel + 1, bracket :: outer, chars =>
    let chars := flags.next chars
    match chars, named? flags chars, combination? chars with
    | [], _, _ => none
    | _, some (set, negated, left), _ =>
      if negated && !flags.unicode then none
      else readWithin flags fuel (bracket.add (set.complementIf negated) :: outer) left
    | '[' :: rest, _, _ => do
      let (inner, left) ← start? flags rest
      readWithin flags fuel (inner :: bracket :: outer) left
    | ']' :: left, _, _ => do
      let set ← bracket.close? flags
      match outer with
      | [] => return (set, left)
      | parent :: further => readWithin flags fuel (parent.add set :: further) left
    | _, _, some (combination, left) =>
      readWithin flags fuel (bracket.combine flags combination :: outer) left
    | _, _, none => do
      let (set, left) ← readItem flags chars
      readWithin flags fuel (bracket.add set :: outer) left

/-- A set in brackets behind the opening one, and what is left. -/
def read (flags : Flags) (chars : List Char) : Option (Class × List Char) := do
  let (bracket, left) ← start? flags chars
  readWithin flags (left.length + 1) [bracket] left

end Bracket

end Stencil.Text.Pattern
