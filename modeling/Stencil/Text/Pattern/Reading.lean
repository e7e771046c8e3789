import Stencil.Text.Pattern.Basic
import Stencil.Text.Pattern.Brackets

/-! # Reading patterns

The written form of patterns. Characters stand for themselves, a point for any character but a line
break, a caret and a dollar sign for the two ends of the text; a backslash begins an escape, a
bracket a set of characters, a parenthesis a group, and a bar separates pieces that may stand in
place of each other. A question mark, an asterisk, a plus sign or counts between braces say how often
the part in front of them is repeated; a question mark behind that makes no difference to a search.
Flags in a group change the rest of it.

A pattern that makes no sense is not read at all, nor is one that is nested too deep or that would
take too much room in a matcher.
-/

namespace Stencil.Text.Pattern

/-- A part of a pattern that has been read. -/
structure Part where
  pattern : Pattern
  /-- How deep it is nested. -/
  depth : Nat := 0
  /-- The room that it takes in a matcher, in bytes. -/
  size : Nat := 0
  /-- Whether it can be repeated; a change of flags cannot. -/
  repeatable : Bool := true

namespace Part

/-- The room of one state of a matcher. -/
def stateSize : Nat := 32

/-- How deep parts may be nested. -/
def depthLimit : Nat := 250

/-- How much room a matcher may take. -/
def sizeLimit : Nat := 10485760

/-- A set of characters as a part. -/
def ofClass (set : Class) : Part where
  pattern := .one set.accepts
  depth := set.depth
  size := set.size + 2 * stateSize

/-- A character as a part. -/
def ofChar (flags : Flags) (c : Char) : Part :=
  let single := Class.single c
  if flags.anyCase then { ofClass (single.folded flags) with depth := 0 }
  else { pattern := .one (· == c), size := c.utf8Size * stateSize }

/-- A condition on a place as a part. -/
def ofCondition (fits : Option Char → Option Char → Bool) : Part where
  pattern := .between fits
  size := stateSize

/-- Parts one behind the other. -/
def joined : List Part → Part
  | [] => { pattern := .empty, size := stateSize }
  | [part] => part
  | first :: rest =>
    rest.foldl (fun all part =>
      { pattern := .both all.pattern part.pattern
        depth := max all.depth (part.depth + 1)
        size := all.size + part.size })
      { first with depth := first.depth + 1, repeatable := true }

/-- Parts that may stand in place of each other. -/
def choice : List Part → Part
  | [] => { pattern := .empty, size := stateSize }
  | [part] => part
  | first :: rest =>
    rest.foldl (fun all part =>
      { pattern := .either all.pattern part.pattern
        depth := max all.depth (part.depth + 1)
        size := all.size + part.size + 4 })
      { first with
        depth := first.depth + 1, size := first.size + 2 * stateSize, repeatable := true }

/-- A part in a group of its own. -/
def grouped (part : Part) : Part :=
  { part with depth := part.depth + 1, size := part.size + 2 * stateSize, repeatable := true }

/-- A part that is repeated. Its room is that of as many copies as have to be told apart. -/
def times (least : Nat) (most : Option Nat) (part : Part) : Part where
  pattern := .repeated part.pattern least most
  depth := part.depth + 1
  size :=
    let copies := match most with
      | some limit => limit
      | none => max least 1
    copies * part.size + (1 + copies - least) * (stateSize + 8)

end Part

/-- A group that is still open: what stands in front of it, and the flags outside. -/
structure Group where
  /-- The parts in front of the group, the last first. -/
  before : List Part
  /-- The alternatives in front of those parts, the last first. -/
  choices : List Part
  flags : Flags

/-- What has been read of a pattern. -/
structure Draft where
  /-- The open groups, the innermost first. -/
  groups : List Group := []
  /-- The alternatives of the innermost group that are complete, the last first. -/
  choices : List Part := []
  /-- The parts of its last alternative, the last first. -/
  parts : List Part := []
  flags : Flags := {}
  /-- The names of groups. -/
  names : List (List Char) := []

namespace Draft

/-- What has been read, with one more part. -/
def add (draft : Draft) (part : Part) : Draft := { draft with parts := part :: draft.parts }

/-- What has been read of the innermost group, as one part. -/
def current (draft : Draft) : Part :=
  .choice (Part.joined draft.parts.reverse :: draft.choices).reverse

/-- What has been read, with a further group. -/
def enter (draft : Draft) (flags : Flags) : Draft :=
  { draft with
    groups := ⟨draft.parts, draft.choices, draft.flags⟩ :: draft.groups
    choices := [], parts := [], flags }

/-- What has been read, once the innermost group is closed. -/
def leave? (draft : Draft) : Option Draft :=
  match draft.groups with
  | [] => none
  | group :: outer =>
    some { draft with
      groups := outer, choices := group.choices, flags := group.flags
      parts := draft.current.grouped :: group.before }

/-- What has been read, with a bar behind it. -/
def divide (draft : Draft) : Draft :=
  { draft with choices := .joined draft.parts.reverse :: draft.choices, parts := [] }

/-- What has been read, with the last part repeated. -/
def repeat? (draft : Draft) (least : Nat) (most : Option Nat) : Option Draft :=
  match draft.parts with
  | part :: before =>
    if part.repeatable then some { draft with parts := part.times least most :: before } else none
  | [] => none

/-- Flags with one of them switched by its letter. -/
def switch (flags : Flags) (value : Bool) : Char → Flags
  | 'i' => { flags with anyCase := value }
  | 'm' => { flags with everyLine := value }
  | 's' => { flags with wide := value }
  | 'R' => { flags with bothBreaks := value }
  | 'u' => { flags with unicode := value }
  | 'x' => { flags with spaced := value }
  | _ => flags

/-- Flags after a change that is written with letters: those behind a hyphen are switched off. Every
letter may stand there once, and the hyphen not at the end. -/
def change? (flags : Flags) (written : List Char) : Option Flags :=
  let known := written.all fun c => ['-', 'i', 'm', 's', 'R', 'u', 'x', 'U'].contains c
  let once := written.all fun c => written.count c = 1
  if known && once && written.getLast? != some '-' then
    let on := written.takeWhile (· ≠ '-')
    some ((written.drop on.length).foldl (fun now c => switch now false c)
      (on.foldl (fun now c => switch now true c) flags))
  else none

/-- The name of a group up to its closing bracket, and what is left. -/
def groupName? (chars : List Char) : Option (List Char × List Char) :=
  let name := chars.takeWhile (· ≠ '>')
  let starts (c : Char) : Bool := c = '_' || isAlphabetic c
  let goesOn (c : Char) : Bool := c = '_' || ['.', '[', ']'].contains c || isAlphanumeric c
  match name, chars.drop name.length with
  | first :: rest, '>' :: left => if starts first && rest.all goesOn then some (name, left) else none
  | _, _ => none

/-- What stands behind an opening parenthesis: the name of a group, flags, or nothing special. A
question mark that asks for what stands around a place is not known. -/
def open? (draft : Draft) (chars : List Char) : Option (Draft × List Char) :=
  let named (rest : List Char) : Option (Draft × List Char) := do
    let (name, left) ← groupName? rest
    if draft.names.contains name then none
    return ({ draft.enter draft.flags with names := name :: draft.names }, left)
  match draft.flags.next chars with
  | '?' :: '=' :: _ | '?' :: '!' :: _ | '?' :: '<' :: '=' :: _ | '?' :: '<' :: '!' :: _ => none
  | '?' :: 'P' :: '<' :: rest | '?' :: '<' :: rest => named rest
  | '?' :: rest => do
    let written := rest.takeWhile fun c => c ≠ ':' && c ≠ ')'
    let flags ← change? draft.flags written
    match rest.drop written.length with
    | ':' :: left => return (draft.enter flags, left)
    | ')' :: left =>
      if written.isEmpty then none
      return ({ draft with
        flags, parts := { pattern := .empty, repeatable := false } :: draft.parts }, left)
    | _ => none
  | rest => return (draft.enter draft.flags, rest)

/-- The greatest number that a count can be. -/
def countLimit : Nat := 4294967295

/-- A count, with blanks around it, and what is left. -/
def count? (flags : Flags) (chars : List Char) : Option (Nat × List Char) :=
  let (digits, left) := gather flags Char.isDigit (trimFront chars)
  let count := digits.foldl (fun value c => 10 * value + (c.toNat - '0'.toNat)) 0
  if digits.isEmpty || countLimit < count then none
  else some (count, (gather flags isBlank left).2)

/-- What is left behind a sign for repetition, with or without a question mark. -/
def pastLazy : List Char → List Char
  | '?' :: rest => rest
  | rest => rest

/-- The counts between braces, and what is left behind them: one count, one and a comma, or two in
order. -/
def counts? (flags : Flags) (chars : List Char) :
    Option (Nat × Option Nat × List Char) := do
  let (least, left) ← count? flags (flags.next chars)
  match left with
  | '}' :: rest => return (least, some least, pastLazy (flags.next rest))
  | ',' :: rest =>
    match flags.next rest with
    | '}' :: rest => return (least, none, pastLazy (flags.next rest))
    | rest =>
      let (most, left) ← count? flags rest
      match left with
      | '}' :: rest =>
        if least ≤ most then return (least, some most, pastLazy (flags.next rest)) else none
      | _ => none
  | _ => none

/-- Whether a character ends a line. -/
def isBreak (flags : Flags) (c : Char) : Bool := c = '\n' || (flags.bothBreaks && c = '\r')

/-- The characters that a point stands for. Bytes have no place in a pattern. -/
def point? (flags : Flags) : Option Part :=
  if flags.unicode then
    some (.ofClass
      { accepts := fun c => flags.wide || !isBreak flags c, size := Class.complementSize })
  else none

/-- Whether the two characters around a place are those in the middle of a line break. -/
def isInsideBreak (flags : Flags) (left right : Option Char) : Bool :=
  flags.bothBreaks && left == some '\r' && right == some '\n'

/-- The start of the text or of a line. -/
def atStart (flags : Flags) (left right : Option Char) : Bool :=
  left.isNone ||
    (flags.everyLine && left.any (isBreak flags) && !isInsideBreak flags left right)

/-- The end of the text or of a line. -/
def atEnd (flags : Flags) (left right : Option Char) : Bool :=
  right.isNone ||
    (flags.everyLine && right.any (isBreak flags) && !isInsideBreak flags left right)

/-- What an escape stands for, as a part. -/
def ofEscape (flags : Flags) : Escape → Part
  | .char c => .ofChar flags c
  | .set set => .ofClass set
  | .between fits => .ofCondition fits

/-- One step of reading: a sign with its operands, and what is left. -/
def step? (draft : Draft) : List Char → Option (Draft × List Char)
  | [] => none
  | c :: rest =>
    let flags := draft.flags
    let repeated (least : Nat) (most : Option Nat) : Option (Draft × List Char) :=
      (draft.repeat? least most).map (·, pastLazy rest)
    match c with
    | '(' => draft.open? rest
    | ')' => draft.leave?.map (·, rest)
    | '|' => some (draft.divide, rest)
    | '[' => (Bracket.read flags rest).map fun (set, left) => (draft.add (.ofClass set), left)
    | '?' => repeated 0 (some 1)
    | '*' => repeated 0 none
    | '+' => repeated 1 none
    | '{' => do
      let (least, most, left) ← counts? flags rest
      return (← draft.repeat? least most, left)
    | '\\' =>
      (Escape.read flags rest).map fun (escape, left) => (draft.add (ofEscape flags escape), left)
    | '.' => (point? flags).map fun part => (draft.add part, rest)
    | '^' => some (draft.add (.ofCondition (atStart flags)), rest)
    | '$' => some (draft.add (.ofCondition (atEnd flags)), rest)
    | _ => some (draft.add (.ofChar flags c), rest)

/-- What is read of a pattern from some point on. Every step reads a character at least. -/
def readFrom? : Nat → Draft → List Char → Option Draft
  | 0, _, _ => none
  | fuel + 1, draft, chars =>
    match draft.flags.next chars with
    | [] => some draft
    | rest => do
      let (further, left) ← draft.step? rest
      readFrom? fuel further left

end Draft

/-- A pattern as it is written. -/
def read? (written : List Char) : Option Pattern := do
  let draft ← Draft.readFrom? (written.length + 1) {} written
  let whole := draft.current
  if draft.groups.isEmpty && whole.depth ≤ Part.depthLimit && whole.size ≤ Part.sizeLimit then
    return whole.pattern
  else none

end Stencil.Text.Pattern
