/-! # Strings in JSON text

A string is written between quotes with the two special characters and the control characters
escaped. Reading goes over units: a character, or one half of a surrogate pair that was written as
an escape. Two halves in a row make a character; a half on its own is well formed but stands for no
text.
-/

namespace Stencil.Json.Quoted

/-- The hexadecimal digit for a number below sixteen. -/
def hexDigit (n : Nat) : Char := Char.ofNat (if n < 10 then '0'.toNat + n else 'a'.toNat + n - 10)

/-- The written form of a character. -/
def encodeChar (c : Char) : List Char :=
  if c = '"' then ['\\', '"']
  else if c = '\\' then ['\\', '\\']
  else if c = '\n' then ['\\', 'n']
  else if c = '\r' then ['\\', 'r']
  else if c = '\t' then ['\\', 't']
  else if c = '\x08' then ['\\', 'b']
  else if c = '\x0c' then ['\\', 'f']
  else if c.toNat < 0x20 then ['\\', 'u', '0', '0', hexDigit (c.toNat / 16), hexDigit (c.toNat % 16)]
  else [c]

/-- A text as a quoted string. -/
def encode (text : String) : List Char := '"' :: text.toList.flatMap encodeChar ++ ['"']

/-- One step of a string: a character, or half of a pair. -/
inductive Step where
  | char (c : Char)
  | half (n : Nat)

/-- The step for a code of sixteen bits. -/
def Step.ofCode (n : Nat) : Step :=
  if 0xd800 ≤ n ∧ n < 0xe000 then .half n else .char (Char.ofNat n)

/-- The value of a hexadecimal digit in either case. -/
def hexValue? (c : Char) : Option Nat :=
  if c.isDigit then some (c.toNat - '0'.toNat)
  else if 'a' ≤ c ∧ c ≤ 'f' then some (c.toNat - 'a'.toNat + 10)
  else if 'A' ≤ c ∧ c ≤ 'F' then some (c.toNat - 'A'.toNat + 10)
  else none

/-- The code that four hexadecimal digits stand for. -/
def hexCode? (a b c d : Char) : Option Nat := do
  return (((← hexValue? a) * 16 + (← hexValue? b)) * 16 + (← hexValue? c)) * 16 + (← hexValue? d)

/-- The character that a letter behind a backslash stands for. -/
def escaped? : Char → Option Char
  | '"' => some '"'
  | '\\' => some '\\'
  | '/' => some '/'
  | 'b' => some '\x08'
  | 'f' => some '\x0c'
  | 'n' => some '\n'
  | 'r' => some '\r'
  | 't' => some '\t'
  | _ => none

/-- The steps up to the closing quote, and the text behind it. -/
def steps? : List Char → Option (List Step × List Char)
  | [] => none
  | '"' :: rest => some ([], rest)
  | '\\' :: 'u' :: a :: b :: c :: d :: rest =>
    match hexCode? a b c d, steps? rest with
    | some n, some (steps, behind) => some (.ofCode n :: steps, behind)
    | _, _ => none
  | '\\' :: c :: rest =>
    match escaped? c, steps? rest with
    | some e, some (steps, behind) => some (.char e :: steps, behind)
    | _, _ => none
  | c :: rest =>
    if c.toNat < 0x20 then none
    else (steps? rest).map fun (steps, behind) => (.char c :: steps, behind)

@[simp] theorem steps?_quote_cons (rest : List Char) : steps? ('"' :: rest) = some ([], rest) := by
  rw [steps?]

/-- The text that steps make, if every half has its other half. -/
def join? : List Step → Option (List Char)
  | [] => some []
  | .char c :: rest => (join? rest).map (c :: ·)
  | .half high :: .half low :: rest =>
    if high < 0xdc00 ∧ 0xdc00 ≤ low then
      (join? rest).map (Char.ofNat (0x10000 + (high - 0xd800) * 0x400 + (low - 0xdc00)) :: ·)
    else none
  | .half _ :: _ => none

/-- What follows an opening quote: the text of the string, if it stands for one, and what stands
behind the closing quote. Nothing if the string is not well formed. -/
def read? (chars : List Char) : Option (Option String × List Char) :=
  (steps? chars).map fun (steps, behind) => ((join? steps).map String.ofList, behind)

end Stencil.Json.Quoted
