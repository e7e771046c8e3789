import Stencil.Body.Diagnosis
import Stencil.Body.Outline
import Stencil.Command.Basic
import Stencil.Command.Log
import Stencil.Command.Table
import Stencil.Template.Engine

/-! # Running a command

What a command does is settled before anything is done: an outcome is a list of actions and an exit
code, computed from the contents of files. Carrying it out is left to whoever has files to write. A
file that cannot be written ends the run there.
-/

namespace Stencil.Command

/-- One thing that a command does. -/
inductive Action where
  /-- Print a text. -/
  | print (text : String)
  /-- Print a text to the error output. -/
  | complain (text : String)
  /-- Write a text to a file. -/
  | write (file text : String)
deriving DecidableEq, Repr

/-- What a command does, in order, and the code it ends with. -/
structure Outcome where
  actions : List Action
  code : Nat

/-- The exit codes. -/
def Outcome.success : Nat := 0

/-- The code after arguments that make no sense. -/
def Outcome.usage : Nat := 2

/-- The code after data that makes no sense. -/
def Outcome.badData : Nat := 65

/-- The code after a file that cannot be read. -/
def Outcome.noInput : Nat := 66

/-- The code after a file that cannot be written. -/
def Outcome.failure : Nat := 70

/-- What a command depends on besides its arguments: the texts of files, where files can be read as
texts, and the settings in its environment. -/
structure World where
  text? : String → Option String
  setting? : String → Option String

/-- Print a line to the error output. -/
def Action.complainLine (line : String) : Action := .complain (line ++ "\n")

/-- What went wrong, as it is printed: further lines of the message are indented. -/
def reportText (message : String) : String :=
  String.intercalate "\n  " ((message.toList.splitOn '\n').map String.ofList) ++ "\n"

/-- Print what went wrong to the error output. -/
def Action.report (message : String) : Action := .complain (reportText message)

/-- A text in bold yellow. -/
def boldYellow (text : String) : String := "\x1b[1m\x1b[33m" ++ text ++ "\x1b[39m\x1b[0m"

/-- A text in green. -/
def green (text : String) : String := "\x1b[32m" ++ text ++ "\x1b[39m"

/-- The line for a warning about a file. -/
def warningLine (file : String) (warning : Warning) : Action :=
  .complainLine (boldYellow "warning" ++ ": " ++ file ++ ": " ++ warning.message)

/-- The line for a file that cannot be read. -/
def unreadable (file : String) : Action := .report ("Cannot read " ++ file)

/-- The lines for a fault in a template. -/
def faultLines (file body : String) (fault : Fault) : List Action :=
  let diagnosis := fault.diagnose body
  [.report (Diagnosis.code ++ ": " ++ file ++ ": " ++ diagnosis.message),
    .report ("  label: " ++ diagnosis.label), .report ("  help: " ++ diagnosis.help)]

/-- The data in a context file: an invoice document is expanded, any other JSON is taken as it is. -/
def readContext? (text : String) : Option Value :=
  match Invoice.Document.ofText text with
  | .ok document => some document.toContext
  | .error _ => (Json.ofText? text).map Value.ofJson

/-- The part of the program that reports a bad date format. -/
def renderPart : String := "docmerge::commands::render"

/-- The setting for the currency symbol. -/
def symbolSetting : String := "DOCMERGE_CURRENCY_SYMBOL"

/-- The setting for the date format. -/
def formatSetting : String := "DOCMERGE_DATE_FORMAT"

/-- The settings in the environment that commands depend on. -/
def settings : List String := symbolSetting :: formatSetting :: Log.settings

/-- The date format that is asked for. What the arguments leave open comes from the environment. -/
def Render.givenFormat (request : Render) (world : World) : String :=
  (request.dateFormat <|> world.setting? formatSetting).getD ({} : Options).dateFormat

/-- The options for rendering. A date format that is not valid gives way to the default one. -/
def Render.options (request : Render) (world : World) : Options :=
  let symbol := (request.currencySymbol <|> world.setting? symbolSetting).getD ""
  let format := request.givenFormat world
  let plain : Options :=
    if Calendar.isValidFormat format then { currencySymbol := symbol, dateFormat := format }
    else { currencySymbol := symbol }
  request.aliases.foldl (fun options (collection, name) => options.withAlias collection name) plain

/-- The log lines about the date format. -/
def Render.log (request : Render) (world : World) : List Action :=
  let format := request.givenFormat world
  if Calendar.isValidFormat format then []
  else
    (Log.warn world.setting? renderPart
      ("invalid date format '" ++ format ++ "', using " ++ ({} : Options).dateFormat)).map .complain

/-- Where the output of rendering goes. -/
def Render.emit (request : Render) (text : String) : Action :=
  match request.output with
  | some file => .write file text
  | none => .print text

/-- What rendering does once the files are read. -/
def Render.finish (request : Render) (world : World) (body : String) (data : Value) : Outcome :=
  let log := request.log world
  match Engine.renderBody { options := request.options world } body data with
  | .error fault => ⟨log ++ faultLines request.template body fault, Outcome.badData⟩
  | .ok rendered =>
    if request.json then ⟨log ++ [request.emit (rendered.toJson.toPretty ++ "\n")], Outcome.success⟩
    else
      ⟨log ++ request.emit rendered.output :: rendered.warnings.map (warningLine request.template),
        Outcome.success⟩

/-- What rendering does. -/
def Render.run (request : Render) (world : World) : Outcome :=
  match world.text? request.template, world.text? request.context with
  | none, _ => ⟨[unreadable request.template], Outcome.noInput⟩
  | _, none => ⟨[unreadable request.context], Outcome.noInput⟩
  | some body, some context =>
    match readContext? context with
    | some data => request.finish world body data
    | none => ⟨[.report "Invalid context JSON"], Outcome.badData⟩

/-- What is reported about one file. -/
structure Report where
  file : String
  body : String
  result : Except Fault (List Warning)

/-- The report on a file with a body. -/
def Report.ofBody (file body : String) : Report :=
  ⟨file, body, (Parsed.ofBody body).map (·.warnings)⟩

/-- Whether the file parses. -/
def Report.isOk (report : Report) : Bool := report.result.isOk

/-- A report as a JSON object. -/
def Report.toJson (report : Report) : Json :=
  let file := ("file", Json.string report.file)
  match report.result with
  | .ok warnings =>
    .object [file, ("ok", .bool true), ("warnings", .array (warnings.map Warning.toJson))]
  | .error fault =>
    .object [file, ("ok", .bool false),
      ("error", .object (("message", .string fault.message) ::
        Warning.placeMembers fault.position.toPlace)),
      ("warnings", .array [])]

/-- A report in words. -/
def Report.actions (report : Report) : List Action :=
  match report.result with
  | .ok warnings =>
    warnings.map (warningLine report.file) ++ [.print (green "ok" ++ " " ++ report.file ++ "\n")]
  | .error fault => faultLines report.file report.body fault

/-- The reports on files up to the first one that cannot be read, and that one. -/
def readReports (world : World) : List String → List Report × Option String
  | [] => ([], none)
  | file :: rest =>
    match world.text? file with
    | none => ([], some file)
    | some body =>
      let (reports, missing) := readReports world rest
      (.ofBody file body :: reports, missing)

/-- What checking does. -/
def runCheck (world : World) (files : List String) (json : Bool) : Outcome :=
  let (reports, missing) := readReports world files
  let told := if json then [] else reports.flatMap Report.actions
  match missing with
  | some file => ⟨told ++ [unreadable file], Outcome.noInput⟩
  | none =>
    let listed :=
      if json then [.print ((Json.array (reports.map Report.toJson)).toPretty ++ "\n")] else []
    ⟨told ++ listed, if reports.all Report.isOk then Outcome.success else Outcome.badData⟩

/-- The row of the table for a directive; its path is indented by its depth. -/
def directiveRow (entry : Outline.Entry) : List String :=
  [entry.kindName, String.ofList (List.replicate (2 * entry.depth) ' ') ++ entry.path,
    entry.itemName?.getD "", (entry.hint?.map Hint.name).getD "", Warning.placeText entry.place]

/-- The directives of a template, as a list for a program or as a table. -/
def directiveText (file : String) (entries : List Outline.Entry) (json : Bool) : String :=
  if json then (Json.array (entries.map Outline.Entry.toJson)).toPretty
  else if entries.isEmpty then "No directives in " ++ file
  else Table.render ["Kind", "Path", "Alias", "Hint", "Location"] (entries.map directiveRow)

/-- What listing does. -/
def runList (world : World) (file : String) (json : Bool) : Outcome :=
  match world.text? file with
  | none => ⟨[unreadable file], Outcome.noInput⟩
  | some body =>
    match Parsed.ofBody body with
    | .error fault => ⟨faultLines file body fault, Outcome.badData⟩
    | .ok parsed =>
      ⟨[.print (directiveText file (Outline.ofParsed {} parsed) json ++ "\n")], Outcome.success⟩

/-- What a command line does. -/
def run (world : World) (given : List String) : Outcome :=
  match ofArguments? given with
  | none => ⟨[.report "usage: docmerge render|check|vars"], Outcome.usage⟩
  | some command =>
    let outcome := match command with
      | .render request => request.run world
      | .check files json => runCheck world files json
      | .list file json => runList world file json
    { outcome with actions := (Log.complaints world.setting?).map .complain ++ outcome.actions }

/-- What is printed about a file that cannot be written. -/
def unwritable (file : String) : String := reportText ("Cannot write " ++ file)

/-- What is left of an outcome where some files cannot be written: the first such file ends it. -/
def Outcome.settle (outcome : Outcome) (canWrite : String → Bool) : Outcome :=
  let blocked : Action → Option String
    | .write file _ => if canWrite file then none else some file
    | _ => none
  match outcome.actions.findSome? blocked with
  | none => outcome
  | some file =>
    ⟨outcome.actions.takeWhile (fun action => (blocked action).isNone) ++
      [.complain (unwritable file)],
      Outcome.failure⟩

/-- The files that a command line reads. -/
def filesRead (given : List String) : List String :=
  match ofArguments? given with
  | some (.render request) => [request.template, request.context]
  | some (.check files _) => files
  | some (.list file _) => [file]
  | none => []

end Stencil.Command
