import Stencil.Text.Pattern.Class

/-! # Escapes in patterns

What a backslash and the characters behind it stand for: a character, a set of characters, or a
condition on the two characters around a place. Where the flags of a pattern allow it, blanks and
comments may stand between the characters of an escape.
-/

namespace Stencil.Text.Pattern

/-- A text without the blanks and comments in front. A comment runs from a number sign to the end of
its line. -/
def skipSpace (inComment : Bool) : List Char → List Char
  | [] => []
  | c :: rest =>
    if inComment then skipSpace (c ≠ '\n') rest
    else if isBlank c then skipSpace false rest
    else if c = '#' then skipSpace true rest
    else c :: rest

/-- Skipping blanks and comments adds nothing. -/
theorem length_skipSpace_le (inComment : Bool) (chars : List Char) :
    (skipSpace inComment chars).length ≤ chars.length := by
  induction chars generalizing inComment with
  | nil => simp [skipSpace]
  | cons c rest ih =>
    unfold skipSpace
    have shorter (b : Bool) : (skipSpace b rest).length ≤ (c :: rest).length :=
      Nat.le_succ_of_le (ih b)
    split
    · exact shorter _
    · split
      · exact shorter _
      · split
        · exact shorter _
        · exact Nat.le_refl _

/-- What is read next: blanks and comments are skipped if they count for nothing. -/
def Flags.next (flags : Flags) (chars : List Char) : List Char :=
  if flags.spaced then skipSpace false chars else chars

/-- What is read next is not longer than what is left. -/
theorem Flags.length_next_le (flags : Flags) (chars : List Char) :
    (flags.next chars).length ≤ chars.length := by
  unfold next
  split
  · exact length_skipSpace_le ..
  · exact Nat.le_refl _

/-- The characters in front that are accepted, and what is left behind them. -/
def gather (flags : Flags) (accepts : Char → Bool) : List Char → List Char × List Char
  | [] => ([], [])
  | c :: rest =>
    if accepts c then
      let (more, left) := gather flags accepts (flags.next rest)
      (c :: more, left)
    else ([], c :: rest)
termination_by chars => chars.length
decreasing_by exact Nat.lt_succ_of_le (flags.length_next_le rest)

/-- The characters in front, of which there have to be so many and all accepted, and what is left
behind them. -/
def gatherExactly (flags : Flags) (accepts : Char → Bool) :
    Nat → List Char → Option (List Char × List Char)
  | 0, chars => some ([], chars)
  | _ + 1, [] => none
  | count + 1, c :: rest =>
    if accepts c then
      (gatherExactly flags accepts count (flags.next rest)).map fun (more, left) => (c :: more, left)
    else none

/-- What an escape stands for. -/
inductive Escape where
  /-- A character. -/
  | char (c : Char)
  /-- A set of characters. -/
  | set (set : Class)
  /-- A condition on the characters on the two sides of a place. -/
  | between (fits : Option Char → Option Char → Bool)

namespace Escape

/-- The value of a hexadecimal digit. -/
def hexValue (c : Char) : Nat :=
  if c.isDigit then c.toNat - '0'.toNat else c.toLower.toNat - 'a'.toNat + 10

/-- The character with a number in hexadecimal digits. -/
def charOfHex? (digits : List Char) : Option Char :=
  let value := digits.foldl (fun value c => 16 * value + hexValue c) 0
  if Nat.isValidChar value then some (Char.ofNat value) else none

/-- A character by its number: so many digits, or digits between braces. Beyond ASCII, two digits
stand for a byte, which is no character of its own. -/
def readNumber (flags : Flags) (width : Nat) (chars : List Char) : Option (Escape × List Char) :=
  match flags.next chars with
  | '{' :: rest =>
    match gather flags Class.isHexDigit (flags.next rest) with
    | ([], _) => none
    | (digits, '}' :: left) => (charOfHex? digits).map fun c => (char c, flags.next left)
    | _ => none
  | rest => do
    let (digits, left) ← gatherExactly flags Class.isHexDigit width rest
    let c ← charOfHex? digits
    if !flags.unicode && width = 2 && 0x80 ≤ c.toNat then none
    return (char c, left)

/-- A set by a property: one letter, or a name between braces. -/
def readProperty (flags : Flags) (negated : Bool) (chars : List Char) :
    Option (Escape × List Char) := do
  let (written, left) ←
    match flags.next chars with
    | [] | '\\' :: _ => none
    | '{' :: rest =>
      match gather flags (· ≠ '}') (flags.next rest) with
      | (written, _ :: left) => some (written, left)
      | _ => none
    | c :: rest => some ([c], flags.next rest)
  let property ← if written.length = 1 then
      (Class.property? written).map fun accepts => { accepts, size := Class.propertySize }
    else Class.ofProperty? written
  if flags.unicode then
    return (set ((property.folded flags).complementIf negated), left)
  else none

/-- Whether a character that need not be there is a word character. -/
def isWordAt (flags : Flags) (c : Option Char) : Bool :=
  c.any fun c => if flags.unicode then isWord c else c.isAlphanum || c == '_'

/-- The conditions on a place at the edge of a word, by their names between braces. -/
def wordEdge? (flags : Flags) (name : String) : Option Escape :=
  let word := isWordAt flags
  match name with
  | "start" => some (between fun left right => !word left && word right)
  | "end" => some (between fun left right => word left && !word right)
  | "start-half" => some (between fun left _ => !word left)
  | "end-half" => some (between fun _ right => !word right)
  | _ => none

/-- A place at an edge of a word: either edge, or the one with a name between braces. Braces that do
not begin with a letter or a hyphen are left for a count. -/
def readWordEdge (flags : Flags) (chars : List Char) : Option (Escape × List Char) :=
  let word := isWordAt flags
  let either := between fun left right => word left != word right
  let inName (c : Char) : Bool := c.isAlpha || c = '-'
  match chars with
  | '{' :: rest =>
    match flags.next rest with
    | [] => none
    | c :: more =>
      if inName c then
        match gather flags inName (c :: more) with
        | (name, '}' :: left) => (wordEdge? flags (String.ofList name)).map (·, left)
        | _ => none
      else some (either, chars)
  | _ => some (either, chars)

/-- The characters that have a letter behind a backslash. -/
def letters : List (Char × Char) := [
  ('a', '\x07'), ('f', '\x0c'), ('t', '\t'), ('n', '\n'), ('r', '\r'), ('v', '\x0b')]

/-- A condition by a letter or an angle bracket. -/
def condition? (flags : Flags) (letter : Char) : Option Escape :=
  let word := isWordAt flags
  match letter with
  | 'A' => some (between fun left _ => left.isNone)
  | 'z' => some (between fun _ right => right.isNone)
  | 'B' => some (between fun left right => word left == word right)
  | '<' => wordEdge? flags "start"
  | '>' => wordEdge? flags "end"
  | _ => none

/-- The set with a letter; in upper case it is the complement, which has to keep to whole
characters. -/
def readLetter? (flags : Flags) (letter : Char) : Option Escape := do
  let known ← Class.ofLetter? flags letter.toLower
  if letter.isUpper && !flags.unicode then none
  return set (known.complementIf letter.isUpper)

/-- An escape behind its backslash, and what is left. Besides letters and digits, every character of
ASCII but the angle brackets stands for itself. -/
def read (flags : Flags) : List Char → Option (Escape × List Char)
  | [] => none
  | c :: rest =>
    match c with
    | 'x' => readNumber flags 2 rest
    | 'u' => readNumber flags 4 rest
    | 'U' => readNumber flags 8 rest
    | 'p' => readProperty flags false rest
    | 'P' => readProperty flags true rest
    | 'b' => readWordEdge flags rest
    | _ =>
      let plain : Option Escape :=
        if c.toNat < 0x80 && !c.isAlphanum && c != '<' && c != '>' then some (char c)
        else (letters.lookup c).map char
      (plain.or ((readLetter? flags c).or (condition? flags c))).map (·, rest)

end Escape

end Stencil.Text.Pattern
