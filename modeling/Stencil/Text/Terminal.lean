/-! # Text without terminal sequences

Text for a terminal may hold escape sequences, which change how it looks, and controls. Without them
are left the characters with a shape, and among the controls the tab and those that end lines or
pages.

A sequence goes on until a character that can end it. A tab or a line end in the midst of a short
sequence is part of the text all the same, and so is what follows it; only the next control or escape
goes on with the sequence.
-/

namespace Stencil.Text

/-- Where a text stands within an escape sequence. -/
inductive TerminalState where
  /-- Not in a sequence. -/
  | ground
  /-- Behind an escape character. -/
  | escape
  /-- Behind an escape character and signs that prepare for the last one. -/
  | escapeSign
  /-- In a control sequence, which is parameters and a letter. -/
  | control
  /-- At the start of a device control string. -/
  | device
  /-- In the parameters of a device control string. -/
  | deviceParameter
  /-- In the signs behind the parameters of a device control string. -/
  | deviceSign
  /-- In a string that a terminator ends. -/
  | string
  /-- In a command to the operating system, which a bell ends. -/
  | command
deriving DecidableEq, Repr

namespace TerminalState

/-- Whether a character lies between two code points. -/
def between (low high : Nat) (c : Char) : Bool := low ≤ c.toNat && c.toNat ≤ high

/-- Whether a character is the tab or ends lines or pages. -/
def isLayout (c : Char) : Bool := c = '\t' || c = '\n' || c = '\x0c' || c = '\r'

/-- Whether the terminator of strings is among the bytes of a character. -/
def holdsTerminator (c : Char) : Bool := (String.singleton c).toUTF8.toList.contains 0x9c

/-- Whether a character belongs to the text. -/
def shows (state : TerminalState) (c : Char) : Bool :=
  match state with
  | ground => between 0x20 0x7e c || isLayout c || 0x80 ≤ c.toNat
  | escape | escapeSign | control => isLayout c
  | _ => false

/-- The state behind an escape character and one more. -/
def afterEscape (c : Char) : TerminalState :=
  match c with
  | '[' => control
  | ']' => command
  | 'P' => device
  | 'X' | '^' | '_' => string
  | _ => if between 0x20 0x2f c then escapeSign else if between 0x30 0x7e c then ground else escape

/-- The state behind a character that does not belong to the text. Two controls give up any sequence,
and the escape character begins a new one. -/
def next (state : TerminalState) (c : Char) : TerminalState :=
  if c = '\x18' || c = '\x1a' then ground
  else if c = '\x1b' then escape
  else match state with
    | ground => ground
    | escape => afterEscape c
    | escapeSign => if between 0x30 0x7e c then ground else escapeSign
    | control => if between 0x40 0x7e c then ground else control
    | device =>
      if between 0x20 0x2f c then deviceSign
      else if between 0x30 0x3f c then deviceParameter
      else if between 0x40 0x7e c then string else device
    | deviceParameter =>
      if between 0x20 0x2f c then deviceSign
      else if between 0x3c 0x7e c then string else deviceParameter
    | deviceSign => if between 0x30 0x7e c then string else deviceSign
    | string => if holdsTerminator c then ground else string
    | command => if c = '\x07' then ground else command

/-- The text behind some point. While characters belong to the text they are judged as outside of any
sequence; characters beyond ASCII end a sequence that was left open. -/
def plainFrom (state : TerminalState) (inText : Bool) : List Char → List Char
  | [] => []
  | c :: rest =>
    if shows (if inText then ground else state) c then
      c :: plainFrom (if 0x80 ≤ c.toNat then ground else state) true rest
    else plainFrom (state.next c) false rest

end TerminalState

/-- A text without escape sequences and controls. -/
def withoutSequences (text : String) : String :=
  String.ofList (TerminalState.ground.plainFrom false text.toList)

end Stencil.Text
