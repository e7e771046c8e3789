import Stencil.Command.Arguments

/-! # Commands

What a command line asks for: to render a template, to check templates, or to list the directives of
one. Anything else is a usage error.
-/

namespace Stencil

/-- What to render, and how. -/
structure Command.Render where
  template : String
  context : String
  currencySymbol : Option String
  dateFormat : Option String
  aliases : List (String × String)
  output : Option String
  json : Bool

/-- A command. -/
inductive Command where
  | render (request : Command.Render)
  | check (files : List String) (json : Bool)
  | list (file : String) (json : Bool)

namespace Command

/-- The switches that every command takes, in front of its name as well as behind it. -/
def commonSwitches : List Switch :=
  [{ name := "color" }, { name := "verbose", letter := some 'v', takesValue := false }]

/-- The switches of the command that renders. -/
def renderSwitches : List Switch :=
  [{ name := "template", letter := some 't' }, { name := "context", letter := some 'c' },
    { name := "currency-symbol" }, { name := "date-format" },
    { name := "alias", repeatable := true }, { name := "output", letter := some 'o' },
    { name := "json", takesValue := false }] ++ commonSwitches

/-- The switches of the commands that only read templates. -/
def readingSwitches : List Switch := { name := "json", takesValue := false } :: commonSwitches

/-- Arguments under the rules of their switches. -/
def readArguments (known : List Switch) (stopAtOperand : Bool) (given : List String) :
    Option Arguments := do
  let arguments ← Arguments.read known stopAtOperand given
  let colorKnown :=
    (arguments.value? "color").all fun color => ["auto", "always", "never"].contains color
  if arguments.inOrder known && colorKnown then some arguments else none

/-- A file name, which may not be empty. -/
def fileName? (name : String) : Option String := if name.isEmpty then none else some name

/-- A collection and the name of its items, on either side of the first equals sign. -/
def readAlias? (text : String) : Option (String × String) :=
  let chars := text.toList
  let collection := chars.takeWhile (· ≠ '=')
  match chars.drop collection.length with
  | _ :: name => some (String.ofList collection, String.ofList name)
  | [] => none

/-- What to render, from the arguments. -/
def readRender? (given : List String) : Option Command := do
  let arguments ← readArguments renderSwitches false given
  let template ← (arguments.value? "template").bind fileName?
  let context ← (arguments.value? "context").bind fileName?
  let aliases ← (arguments.values "alias").mapM readAlias?
  let output ← (arguments.value? "output").mapM fileName?
  if !arguments.operands.isEmpty then none
  return .render {
    template, context, aliases, output
    currencySymbol := arguments.value? "currency-symbol"
    dateFormat := arguments.value? "date-format"
    json := arguments.has "json" }

/-- What to check, from the arguments: one file or more. -/
def readCheck? (given : List String) : Option Command := do
  let arguments ← readArguments readingSwitches false given
  let files ← arguments.operands.mapM fileName?
  if files.isEmpty then none
  return .check files (arguments.has "json")

/-- What to list, from the arguments: one file. -/
def readList? (given : List String) : Option Command := do
  let arguments ← readArguments readingSwitches false given
  match ← arguments.operands.mapM fileName? with
  | [file] => return .list file (arguments.has "json")
  | _ => none

/-- The command that a command line asks for. -/
def ofArguments? (given : List String) : Option Command := do
  let arguments ← readArguments commonSwitches true given
  match arguments.operands with
  | "render" :: rest => readRender? rest
  | "check" :: rest => readCheck? rest
  | "vars" :: rest => readList? rest
  | _ => none

end Command

end Stencil
