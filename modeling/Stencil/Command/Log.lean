import Stencil.Text.Pattern.Reading
import Stencil.Text.Terminal

/-! # The log

Log lines about the program's own doings go to the error output. A filter says which of them are
shown: a list of directives with commas between them, and perhaps a pattern behind a slash that has
to occur in a shown message. A directive is a level for all of the program, or the name of a part of
it with a level; the one with the longest name that fits decides.
-/

namespace Stencil.Command.Log

/-- The levels of the log, from the fewest lines to the most. -/
def levels : List String := ["off", "error", "warn", "info", "debug", "trace"]

/-- The rank of the level of warnings. -/
def warnRank : Nat := 2

/-- The rank of the level at which everything is shown. -/
def fullRank : Nat := 5

/-- The rank of a level by its name in any case. -/
def level? (name : List Char) : Option Nat :=
  levels.findIdx? (·.toList = name.map Char.toLower)

/-- A directive of a filter: the part of the program it is about, none for all of it, and the rank
of the highest level that is shown. -/
structure Directive where
  target : Option String
  rank : Nat

/-- A directive as it is written, without the blanks around it; or else the text that makes no sense
of it. -/
def readDirective (text : List Char) : Except (List Char) Directive :=
  match text.splitOn '=' with
  | [name] =>
    match level? name with
    | some rank => .ok ⟨none, rank⟩
    | none => .ok ⟨some (String.ofList name), fullRank⟩
  | [name, level] =>
    if (Text.trim level).isEmpty then .ok ⟨some (String.ofList name), fullRank⟩
    else
      match level? (Text.trim level) with
      | some rank => .ok ⟨some (String.ofList name), rank⟩
      | none => .error (Text.trim level)
  | _ => .error text

/-- The directives with one more; it replaces the one for the same part. -/
def put (directive : Directive) : List Directive → List Directive
  | [] => [directive]
  | other :: rest =>
    if other.target = directive.target then directive :: rest else other :: put directive rest

/-- A filter: its directives, and the pattern that has to occur in a shown message. -/
structure Filter where
  directives : List Directive
  pattern : Option Text.Pattern

/-- The filter without any directive of its own: it shows warnings. -/
def Filter.standard : Filter := ⟨[⟨none, warnRank⟩], none⟩

/-- The texts of the directives in a list with commas; empty ones count for nothing. -/
def directiveTexts (written : List Char) : List (List Char) :=
  ((written.splitOn ',').map Text.trim).filter (!·.isEmpty)

/-- A filter as it is written. One with more than one slash counts for nothing, and so does a
directive or a pattern that makes no sense. -/
def Filter.read (text : String) : Filter :=
  let extend (written : List Char) : List Directive :=
    ((directiveTexts written).filterMap fun text => (readDirective text).toOption).foldl
      (fun all directive => put directive all) standard.directives
  match text.toList.splitOn '/' with
  | [written] => ⟨extend written, none⟩
  | [written, pattern] => ⟨extend written, Text.Pattern.read? pattern⟩
  | _ => standard

/-- What is said about a text that makes no sense of a filter. -/
def senseless (text : List Char) (reason : String) : String :=
  "warning: invalid logging spec '" ++ String.ofList text ++ "'" ++ reason ++ ", ignoring it\n"

/-- What is said about the directives of a filter that make no sense. -/
def Filter.complaints (text : String) : List String :=
  let about (written : List Char) : List String :=
    (directiveTexts written).filterMap fun text =>
      match readDirective text with
      | .ok _ => none
      | .error part => some (senseless part "")
  match text.toList.splitOn '/' with
  | [written] | [written, _] => about written
  | _ => [senseless text.toList " (too many '/'s)"]

/-- The length of the name in a directive. -/
def Directive.weight (directive : Directive) : Nat :=
  (directive.target.map (·.utf8ByteSize)).getD 0

/-- Whether a directive is about a part of the program. -/
def Directive.fits (directive : Directive) (part : String) : Bool :=
  directive.target.all fun target => target.toList.isPrefixOf part.toList

/-- The rank of the highest level that a filter shows for a part of the program. Of directives with
names of one length the last one counts. -/
def Filter.rankFor (filter : Filter) (part : String) : Nat :=
  let best := (filter.directives.filter (·.fits part)).foldl
    (fun best directive =>
      match best with
      | some chosen => if chosen.weight ≤ directive.weight then some directive else best
      | none => some directive)
    (none : Option Directive)
  (best.map (·.rank)).getD 0

/-- Whether a filter shows a warning of a part of the program. -/
def Filter.showsWarning (filter : Filter) (part message : String) : Bool :=
  warnRank ≤ filter.rankFor part && filter.pattern.all (·.occursIn message.toList)

/-- Whether log lines are coloured, by the settings in the environment; the error output is taken to
be no terminal. -/
def isColoured (setting? : String → Option String) : Bool :=
  let isSet (name : String) : Bool := (setting? name).any (!·.isEmpty)
  match setting? "RUST_LOG_STYLE" with
  | some "always" => true
  | some "never" => false
  | _ => !isSet "NO_COLOR" && isSet "CLICOLOR_FORCE"

/-- A message with the lines behind its first one indented. -/
def indented (message : String) : String :=
  String.ofList (message.toList.flatMap fun c => if c = '\n' then ['\n', ' ', ' ', ' ', ' '] else [c])

/-- The line for a warning of a part of the program, with its end. Without colours, nothing in it is
left to the terminal. -/
def warningLine (coloured : Bool) (part message : String) : String :=
  if coloured then
    "\x1b[90m[\x1b[0m\x1b[33mWARN \x1b[0m " ++ part ++ "\x1b[90m]\x1b[0m " ++ indented message ++ "\n"
  else Text.withoutSequences ("[WARN  " ++ part ++ "] " ++ indented message ++ "\n")

/-- The settings in the environment that the log depends on. -/
def settings : List String := ["RUST_LOG", "RUST_LOG_STYLE", "NO_COLOR", "CLICOLOR_FORCE"]

/-- What is said about the settings in the environment. -/
def complaints (setting? : String → Option String) : List String :=
  ((setting? "RUST_LOG").map Filter.complaints).getD []

/-- What is shown for a warning of a part of the program under the settings in the environment. -/
def warn (setting? : String → Option String) (part message : String) : List String :=
  let filter := ((setting? "RUST_LOG").map Filter.read).getD .standard
  if filter.showsWarning part message then [warningLine (isColoured setting?) part message] else []

end Stencil.Command.Log
