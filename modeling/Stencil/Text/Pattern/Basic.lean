/-! # Patterns

A pattern describes pieces of text: which characters follow each other, which pieces may stand in
place of each other, how often a piece is repeated, and between which characters it may begin or
end. A search asks whether any piece of a text fits.

The search goes through the pattern once. For every place in the text, in front of each character
and at the end, it keeps a mark that says whether a piece that fits what has been read of the
pattern can end there. Each part of a pattern turns marks into marks, so nothing is tried twice.
-/

namespace Stencil.Text

/-- A pattern for pieces of text. -/
inductive Pattern where
  /-- The empty piece. -/
  | empty
  /-- One character that is accepted. -/
  | one (accepts : Char → Bool)
  /-- The empty piece where the characters on its two sides fit; there is none at an end of the
  text. -/
  | between (fits : Option Char → Option Char → Bool)
  /-- A piece that fits one pattern, and behind it a piece that fits another. -/
  | both (first second : Pattern)
  /-- A piece that fits one of two patterns. -/
  | either (first second : Pattern)
  /-- Pieces that fit a pattern, one behind the other; there are at least so many, and no more than
  so many if there is a limit. -/
  | repeated (inner : Pattern) (least : Nat) (most : Option Nat)

/-- A mark for every place in a text. -/
abbrev Marks := List Bool

namespace Marks

/-- The places that are marked in one of two ways. -/
def union (first second : Marks) : Marks := List.zipWith (· || ·) first second

/-- The places behind an accepted character in front of which there is a mark. -/
def advance (accepts : Char → Bool) (text : List Char) (marks : Marks) : Marks :=
  false :: List.zipWith (fun mark c => mark && accepts c) marks text

/-- The marked places between characters that fit. -/
def keep (fits : Option Char → Option Char → Bool) (text : List Char) (marks : Marks) : Marks :=
  let before := none :: text.map some
  let behind := text.map some ++ [none]
  List.zipWith (fun mark (left, right) => mark && fits left right) marks (before.zip behind)

/-- The marks after a number of steps. Marks that a step leaves as they are stay for good. -/
def after (step : Marks → Marks) : Nat → Marks → Marks
  | 0, marks => marks
  | count + 1, marks =>
    let next := step marks
    if next = marks then marks else after step count next

/-- The places that are marked after some number of steps up to a limit. -/
def within (step : Marks → Marks) (limit : Nat) (marks : Marks) : Marks :=
  after (fun now => union now (step now)) limit marks

end Marks

namespace Pattern

/-- The places where a piece can end that begins at a marked place and fits a pattern. A repetition
without a limit reaches every place it can reach in no more steps than there are places. -/
def follow (text : List Char) : Pattern → Marks → Marks
  | empty, marks => marks
  | one accepts, marks => marks.advance accepts text
  | between fits, marks => marks.keep fits text
  | both first second, marks => follow text second (follow text first marks)
  | either first second, marks => (follow text first marks).union (follow text second marks)
  | repeated inner least most, marks =>
    let further := match most with
      | some limit => limit - least
      | none => text.length + 1
    Marks.within (fun now => follow text inner now) further
      (Marks.after (fun now => follow text inner now) least marks)

/-- Whether some piece of a text fits a pattern. -/
def occursIn (pattern : Pattern) (text : List Char) : Bool :=
  (pattern.follow text (List.replicate (text.length + 1) true)).any id

end Pattern

end Stencil.Text
