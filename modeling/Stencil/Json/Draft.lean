import Stencil.Json.Numeral
import Stencil.Json.Quoted

/-! # JSON text, as far as it goes

A draft is what reading a JSON text from left to right yields, up to the point where the text stops
being JSON. Nothing is judged here but the grammar: numbers and strings are kept as they are
written. Whoever interprets a draft walks it in the order of the text, so of a fault in the grammar
and a fault in the data the earlier one is found.
-/

namespace Stencil.Json

/-- A JSON text as far as it could be read. -/
inductive Draft where
  /-- The text is not JSON from here on. -/
  | broken
  | null
  | bool (b : Bool)
  | number (numeral : Numeral)
  /-- A string; nothing if an unpaired surrogate keeps it from being a text. -/
  | string (text : Option String)
  | array (items : List Draft) (closed : Bool)
  | object (members : List (Option String × Draft)) (closed : Bool)

namespace Draft

/-- The whitespace of JSON. -/
def isSpace (c : Char) : Bool := c == ' ' || c == '\n' || c == '\t' || c == '\r'

/-- A text without the whitespace in front. -/
def skipSpace (chars : List Char) : List Char := chars.dropWhile isSpace

/-- A string behind its opening quote. -/
def readString (chars : List Char) : Draft × Option (List Char) :=
  match Quoted.read? chars with
  | some (text, behind) => (.string text, some behind)
  | none => (.broken, none)

/-- A number at the start of a text. -/
def readNumber (chars : List Char) : Draft × Option (List Char) :=
  match Numeral.read? chars with
  | some (numeral, behind) => (.number numeral, some behind)
  | none => (.broken, none)

mutual

/-- A value, and the text behind it unless that ends in a fault. -/
def readValue : Nat → List Char → Draft × Option (List Char)
  | 0, _ => (.broken, none)
  | fuel + 1, chars =>
    match skipSpace chars with
    | 'n' :: 'u' :: 'l' :: 'l' :: rest => (.null, some rest)
    | 't' :: 'r' :: 'u' :: 'e' :: rest => (.bool true, some rest)
    | 'f' :: 'a' :: 'l' :: 's' :: 'e' :: rest => (.bool false, some rest)
    | '"' :: rest => readString rest
    | '[' :: rest =>
      match skipSpace rest with
      | ']' :: behind => (.array [] true, some behind)
      | _ =>
        let (items, behind) := readItems fuel rest
        (.array items behind.isSome, behind)
    | '{' :: rest =>
      match skipSpace rest with
      | '}' :: behind => (.object [] true, some behind)
      | _ =>
        let (members, behind) := readMembers fuel rest
        (.object members behind.isSome, behind)
    | chars => readNumber chars

/-- The items of an array from some item on, and the text behind the bracket. -/
def readItems : Nat → List Char → List Draft × Option (List Char)
  | 0, _ => ([], none)
  | fuel + 1, chars =>
    match readValue fuel chars with
    | (item, none) => ([item], none)
    | (item, some rest) =>
      match skipSpace rest with
      | ',' :: rest =>
        let (items, behind) := readItems fuel rest
        (item :: items, behind)
      | ']' :: behind => ([item], some behind)
      | _ => ([item], none)

/-- The members of an object from some member on, and the text behind the brace. -/
def readMembers : Nat → List Char → List (Option String × Draft) × Option (List Char)
  | 0, _ => ([], none)
  | fuel + 1, chars =>
    match skipSpace chars with
    | '"' :: rest =>
      match Quoted.read? rest with
      | none => ([], none)
      | some (key, rest) =>
        match skipSpace rest with
        | ':' :: rest =>
          match readValue fuel rest with
          | (item, none) => ([(key, item)], none)
          | (item, some rest) =>
            match skipSpace rest with
            | ',' :: rest =>
              let (members, behind) := readMembers fuel rest
              ((key, item) :: members, behind)
            | '}' :: behind => ([(key, item)], some behind)
            | _ => ([(key, item)], none)
        | _ => ([(key, .broken)], none)
    | _ => ([], none)

end

@[simp] theorem readValue_zero (chars : List Char) : readValue 0 chars = (.broken, none) := by
  rw [readValue]

@[simp] theorem readMembers_zero (chars : List Char) : readMembers 0 chars = ([], none) := by
  rw [readMembers]

/-- The draft of a text, and whether nothing but whitespace follows the value. Every two steps of
the reader take a character, which bounds the number of steps. -/
def ofText (text : String) : Draft × Bool :=
  let chars := text.toList
  let (draft, behind) := readValue (2 * chars.length + 2) chars
  (draft, behind.any fun rest => (skipSpace rest).isEmpty)

mutual

/-- Whether a draft is free of faults in the grammar. Numbers may be too large for a double and
strings may hold unpaired surrogates: this is what a member that nobody asks for has to satisfy. -/
def isWhole : Draft → Bool
  | broken => false
  | array items closed => areWhole items && closed
  | object members closed => membersWhole members && closed
  | _ => true

/-- Whether drafts are free of faults. -/
def areWhole : List Draft → Bool
  | [] => true
  | item :: rest => item.isWhole && areWhole rest

/-- Whether the values of members are free of faults. -/
def membersWhole : List (Option String × Draft) → Bool
  | [] => true
  | (_, item) :: rest => item.isWhole && membersWhole rest

end

mutual

/-- The value of a draft with at most `depth` arrays and objects around any value. -/
def toJson? : Nat → Draft → Option Json
  | _, broken => none
  | _, null => some .null
  | _, bool b => some (.bool b)
  | _, number numeral => numeral.value?.map .number
  | _, string text => text.map .string
  | 0, array .. => none
  | 0, object .. => none
  | depth + 1, array items closed =>
    if closed then (itemsToJson? depth items).map .array else none
  | depth + 1, object members closed =>
    if closed then (membersToJson? depth members).map .object else none

/-- The values of drafts. -/
def itemsToJson? : Nat → List Draft → Option (List Json)
  | _, [] => some []
  | depth, item :: rest => do
    return (← toJson? depth item) :: (← itemsToJson? depth rest)

/-- The members of an object with their values. -/
def membersToJson? : Nat → List (Option String × Draft) → Option (List (String × Json))
  | _, [] => some []
  | depth, (key, item) :: rest => do
    return (← key, ← toJson? depth item) :: (← membersToJson? depth rest)

end

end Draft

/-- The JSON value that a text holds, nested at most 127 deep. -/
def ofText? (text : String) : Option Json :=
  let (draft, complete) := Draft.ofText text
  if complete then draft.toJson? 127 else none

end Stencil.Json
