import Stencil.Text.Alphabetic
import Stencil.Text.Blank
import Stencil.Text.Casing
import Stencil.Text.Script

/-! # Character classes

Sets of characters that have a name in patterns: the classes with a letter behind a backslash, those
with a name between colons, which lie within ASCII, and the properties of Unicode, by version 16.
-/

namespace Stencil.Text.Pattern

/-- What the flags of a pattern say at some place in it. -/
structure Flags where
  /-- Letters count in either case. -/
  anyCase : Bool := false
  /-- The start and the end of every line count as those of the text. -/
  everyLine : Bool := false
  /-- A point stands for line breaks too. -/
  wide : Bool := false
  /-- Lines end with a carriage return, a line feed or both. -/
  bothBreaks : Bool := false
  /-- Classes reach beyond ASCII. -/
  unicode : Bool := true
  /-- Blanks and comments in the pattern count for nothing. -/
  spaced : Bool := false

/-- A set of characters in a pattern. -/
structure Class where
  /-- Whether a character is in the set. -/
  accepts : Char → Bool
  /-- How deep the brackets are nested that it is written with. -/
  depth : Nat := 0
  /-- The room that its ranges take in a matcher. -/
  size : Nat

namespace Class

/-- The room for one more range of characters, and for one that lies within ASCII. -/
def rangeSize : Nat := 130

/-- The room for a range within ASCII. -/
def asciiSize : Nat := 8

/-- The characters from one to another. -/
def range (low high : Char) : Class where
  accepts c := low ≤ c && c ≤ high
  size := if high.toNat < 0x80 then asciiSize else rangeSize

/-- One character. -/
def single (c : Char) : Class := range c c

/-- The room that the complement of a set takes besides its own. -/
def complementSize : Nat := 1000

/-- The characters that are not in a set. -/
def complement (set : Class) : Class :=
  { set with accepts := fun c => !set.accepts c, size := set.size + complementSize }

/-- A set or its complement. -/
def complementIf (negated : Bool) (set : Class) : Class := if negated then set.complement else set

/-- The characters of a set together with those that differ from them only in case. -/
def folded (flags : Flags) (set : Class) : Class :=
  let siblings (c : Char) : List Char :=
    if flags.unicode then caseSiblings c
    else if c.isLower then [c.toUpper] else if c.isUpper then [c.toLower] else []
  if flags.anyCase then
    { set with accepts := fun c => set.accepts c || (siblings c).any set.accepts
               size := 2 * set.size }
  else set

/-- The hexadecimal digits within ASCII. -/
def isHexDigit (c : Char) : Bool := c.isDigit || ('a' ≤ c && c ≤ 'f') || ('A' ≤ c && c ≤ 'F')

/-- The sets with a name between colons. -/
def named : List (String × (Char → Bool)) := [
  ("alnum", Char.isAlphanum),
  ("alpha", Char.isAlpha),
  ("ascii", fun c => c.toNat < 0x80),
  ("blank", fun c => c == ' ' || c == '\t'),
  ("cntrl", fun c => c.toNat < 0x20 || c.toNat = 0x7f),
  ("digit", Char.isDigit),
  ("graph", fun c => '!' ≤ c && c ≤ '~'),
  ("lower", Char.isLower),
  ("print", fun c => ' ' ≤ c && c ≤ '~'),
  ("punct", fun c => '!' ≤ c && c ≤ '~' && !c.isAlphanum),
  ("space", fun c => c == ' ' || ('\t' ≤ c && c ≤ '\r')),
  ("upper", Char.isUpper),
  ("word", fun c => c.isAlphanum || c == '_'),
  ("xdigit", isHexDigit)]

/-- The set with a name between colons. -/
def ofName? (name : String) : Option Class :=
  (named.lookup name).map fun accepts => { accepts, size := 4 * asciiSize }

/-- The set of digits, blanks or word characters, by its letter in lower case. -/
def ofLetter? (flags : Flags) (letter : Char) : Option Class :=
  let ascii (name : String) : Option Class := ofName? name
  if flags.unicode then
    match letter with
    | 'd' => some { accepts := fun c => Category.decimalNumber.has c && !isRecent c, size := 5000 }
    | 's' => some { accepts := isBlank, size := 700 }
    | 'w' => some { accepts := isWord, size := 50000 }
    | _ => none
  else
    match letter with
    | 'd' => ascii "digit"
    | 's' => ascii "space"
    | 'w' => ascii "word"
    | _ => none

/-- Names of categories and of groups of them, in lower case and without separators. -/
def categoryNames : List (List String × List Category) := [
  (["lu", "uppercaseletter"], [.uppercaseLetter]),
  (["ll", "lowercaseletter"], [.lowercaseLetter]),
  (["lt", "titlecaseletter"], [.titlecaseLetter]),
  (["lc", "casedletter"], [.uppercaseLetter, .lowercaseLetter, .titlecaseLetter]),
  (["lm", "modifierletter"], [.modifierLetter]),
  (["lo", "otherletter"], [.otherLetter]),
  (["l", "letter"],
    [.uppercaseLetter, .lowercaseLetter, .titlecaseLetter, .modifierLetter, .otherLetter]),
  (["mn", "nonspacingmark"], [.nonspacingMark]),
  (["mc", "spacingmark"], [.spacingMark]),
  (["me", "enclosingmark"], [.enclosingMark]),
  (["m", "mark", "combiningmark"], [.nonspacingMark, .spacingMark, .enclosingMark]),
  (["nd", "decimalnumber", "digit"], [.decimalNumber]),
  (["nl", "letternumber"], [.letterNumber]),
  (["no", "othernumber"], [.otherNumber]),
  (["n", "number"], [.decimalNumber, .letterNumber, .otherNumber]),
  (["pc", "connectorpunctuation"], [.connectorPunctuation]),
  (["pd", "dashpunctuation"], [.dashPunctuation]),
  (["ps", "openpunctuation"], [.openPunctuation]),
  (["pe", "closepunctuation"], [.closePunctuation]),
  (["pi", "initialpunctuation"], [.initialPunctuation]),
  (["pf", "finalpunctuation"], [.finalPunctuation]),
  (["po", "otherpunctuation"], [.otherPunctuation]),
  (["p", "punctuation", "punct"],
    [.connectorPunctuation, .dashPunctuation, .openPunctuation, .closePunctuation,
      .initialPunctuation, .finalPunctuation, .otherPunctuation]),
  (["sm", "mathsymbol"], [.mathSymbol]),
  (["sc", "currencysymbol"], [.currencySymbol]),
  (["sk", "modifiersymbol"], [.modifierSymbol]),
  (["so", "othersymbol"], [.otherSymbol]),
  (["s", "symbol"], [.mathSymbol, .currencySymbol, .modifierSymbol, .otherSymbol]),
  (["zs", "spaceseparator"], [.spaceSeparator]),
  (["zl", "lineseparator"], [.lineSeparator]),
  (["zp", "paragraphseparator"], [.paragraphSeparator]),
  (["z", "separator"], [.spaceSeparator, .lineSeparator, .paragraphSeparator]),
  (["cc", "control", "cntrl"], [.control]),
  (["cf", "format"], [.format]),
  (["co", "privateuse"], [.privateUse]),
  (["cs", "surrogate"], [])]

/-- Whether a character is assigned. -/
def isAssigned (c : Char) : Bool := Category.all.any (·.has c) && !isRecent c

/-- The characters of a category or of a group of them, by a name. -/
def category? (name : String) : Option (Char → Bool) :=
  match name with
  | "any" => some fun _ => true
  | "ascii" => some fun c => c.toNat < 0x80
  | "assigned" => some isAssigned
  | "cn" | "unassigned" => some fun c => !isAssigned c
  | "c" | "other" => some fun c =>
    !isAssigned c || [Category.control, .format, .privateUse].any (·.has c)
  | _ =>
    (categoryNames.find? (·.1.contains name)).map fun (_, categories) c =>
      categories.any (·.has c) && !isRecent c

/-- The characters of a script, by a name. -/
def script? (name : String) : Option (Char → Bool) :=
  (scriptRanges? name).map fun ranges c => inRanges ranges c.toNat && !isRecent c

/-- The characters with a property that is either there or not, by a name. -/
def binary? (name : String) : Option (Char → Bool) :=
  let known (accepts : Char → Bool) : Option (Char → Bool) := some fun c => accepts c && !isRecent c
  match name with
  | "alphabetic" | "alpha" => known isAlphabetic
  | "lowercase" | "lower" => known isLowercase
  | "uppercase" | "upper" => known isUppercase
  | "whitespace" | "wspace" | "space" => known isBlank
  | "asciihexdigit" | "ahex" => known isHexDigit
  | "hexdigit" | "hex" => known fun c =>
    isHexDigit c || inRanges [(0xff10, 0xff19), (0xff21, 0xff26), (0xff41, 0xff46)] c.toNat
  | _ => none

/-- A name of a property as it is looked up: lower case, without separators, without characters
outside ASCII and without a leading `is`. -/
def plainName (name : List Char) : String :=
  let (start, rest) := ((name.take 2).map Char.toLower, name.drop 2)
  let kept := (if start = ['i', 's'] then rest else name).filter fun c =>
    c != ' ' && c != '_' && c != '-' && c.toNat < 0x80
  let plain := String.ofList (kept.map Char.toLower)
  if start = ['i', 's'] && plain = "c" then "isc" else plain

/-- The characters with a property that stands between braces. -/
def property? (name : List Char) : Option (Char → Bool) :=
  let plain := plainName name
  (binary? plain).or ((category? plain).or (script? plain))

/-- The characters of which a property has a value. -/
def propertyValue? (name value : List Char) : Option (Char → Bool) :=
  match plainName name with
  | "gc" | "generalcategory" => category? (plainName value)
  | "sc" | "script" => script? (plainName value)
  | _ => none

/-- The room that a property takes. -/
def propertySize : Nat := 30000

/-- The set for what stands between the braces behind a `p`: a property, or the name of one and a
value with a colon, an equals sign or a sign for inequality between them. -/
def ofProperty? (written : List Char) : Option Class :=
  let cutAt (c : Char) : List Char × List Char :=
    (written.takeWhile (· ≠ c), (written.dropWhile (· ≠ c)).drop 1)
  let unequal := written.zip (written.drop 1) |>.takeWhile (· ≠ ('!', '='))
  let accepts? : Option (Char → Bool) :=
    if unequal.length + 1 < written.length then
      (propertyValue? (written.take unequal.length) (written.drop (unequal.length + 2))).map
        fun accepts c => !accepts c
    else if written.contains ':' then propertyValue? (cutAt ':').1 (cutAt ':').2
    else if written.contains '=' then propertyValue? (cutAt '=').1 (cutAt '=').2
    else property? written
  accepts?.map fun accepts => { accepts, size := propertySize }

end Class

end Stencil.Text.Pattern
