import Stencil.Text.Dotted
import Stencil.Text.Singular

/-! # Options

What a caller can settle about the text of values: the currency symbol, the format of dates, and two
kinds of exceptions. A hint for a full path wins over the one inferred from its name, and an alias
for a collection wins over its singular.
-/

namespace Stencil

/-- How a value is turned into text. -/
inductive Hint where
  /-- An amount with two places and the currency symbol. -/
  | currency
  /-- A date in the chosen format. -/
  | date
  /-- As it is. -/
  | plain
deriving DecidableEq, Repr

/-- The name of a hint. -/
def Hint.name : Hint → String
  | currency => "currency"
  | date => "date"
  | plain => "plain"

/-- Settings for the text of values. Later exceptions stand in front of earlier ones. -/
structure Options where
  currencySymbol : String := ""
  dateFormat : String := "%Y-%m-%d"
  hints : List (String × Hint) := []
  aliases : List (String × String) := []

namespace Options

/-- The options with a hint for a path. -/
def withHint (options : Options) (path : String) (hint : Hint) : Options :=
  { options with hints := (path, hint) :: options.hints }

/-- The options with a name for the items of a collection. -/
def withAlias (options : Options) (collection name : String) : Options :=
  { options with aliases := (collection, name) :: options.aliases }

/-- The hint that was given for a path. -/
def hintOverride? (options : Options) (path : String) : Option Hint := options.hints.lookup path

/-- The name that was given for the items of a collection. -/
def aliasOverride? (options : Options) (collection : String) : Option String :=
  options.aliases.lookup collection

end Options

namespace Hint

/-- Whether a segment ends in a word: the segment is the word in any case, or the word stands
capitalised behind something else, or in any case behind something and a low line. -/
def endsIn (segment word : String) : Bool :=
  let chars := segment.toList
  let lower := chars.map Char.toLower
  let small := word.toList.map Char.toLower
  lower == small ||
  (word.length < segment.length && word.toList.isSuffixOf chars) ||
  (small.length + 1 < chars.length && ('_' :: small).isSuffixOf lower)

/-- The words that mark an amount. -/
def currencyWords : List String := ["Amount", "Price", "Budget", "Total", "Cost"]

/-- The hint that the name at the end of a path suggests. -/
def infer (path : String) : Hint :=
  let segment := Text.lastSegment path
  if currencyWords.any (endsIn segment) then .currency
  else if endsIn segment "Date" then .date
  else .plain

end Hint

/-- The hint for a path: the one that was given, else the one that its name suggests. -/
def Options.hintFor (options : Options) (path : String) : Hint :=
  (options.hintOverride? path).getD (Hint.infer path)

/-- The name of each item in a loop over a collection: the one that was given for the last segment of
the collection's path, else the singular of that segment. -/
def Options.aliasFor (options : Options) (collection : String) : String :=
  let name := Text.lastSegment collection
  (options.aliasOverride? name).getD (Text.singular name)

end Stencil
