import Stencil.Proofs.Body.Flattening
import Stencil.Proofs.Render.Meaning
import Stencil.Template.Engine

/-! # Forms

A form says what a template makes of an invoice document: fixed words with data of the document
between them, and perhaps a table with one block for each project and in it one row for each job. A
body that is written like a form parses, and with the context of any document it renders as the form
filled in, without a warning (`Form.Writes.renderBody`).
-/

namespace Stencil

namespace Form

/-- A text, a date or an amount of a document, perhaps absent. -/
inductive Datum where
  | text (words : Option String)
  | date (day : Option Date)
  | amount (number : Option Float)

/-- A datum as templates see it. -/
def Datum.toValue : Datum → Value
  | text words => Invoice.textValue words
  | date day => Invoice.dateValue day
  | amount number => Invoice.floatValue number

/-- A part of a form: fixed words, or a datum with the path by which a template names it. -/
inductive Part (α : Type) where
  | words (text : String)
  | field (path : String) (datum : α → Datum)

namespace Part

variable {α : Type}

/-- A part as it is written in a template. -/
def content : Part α → Token.Content
  | words text => .text text
  | field path _ => .directive (.value path)

/-- A part filled in. -/
def fill (options : Options) (source : α) : Part α → String
  | words text => text
  | field path datum =>
    escapeMarkup ((datum source).toValue.format options (options.hintFor path))

/-- What a template finds in a scope for a part. -/
def found? (scope : Scope) : Part α → Option Value
  | words _ => none
  | field path _ => scope.resolve? path

/-- What is filled in for a part. -/
def given? (source : α) : Part α → Option Value
  | words _ => none
  | field _ datum => some (datum source).toValue

end Part

/-- The parts of a form filled in, one behind the other. -/
def fillAll {α : Type} (options : Options) (parts : List (Part α)) (source : α) : String :=
  String.join (parts.map (Part.fill options source))

/-- What a form has for the projects: a block for each, with a head, a row for each job, and a
foot. -/
structure Table where
  head : List (Part Invoice.Project)
  row : List (Part Invoice.Job)
  foot : List (Part Invoice.Project)

namespace Table

/-- A table as it is written in a template. -/
def contents (table : Table) : List Token.Content :=
  .directive (.each "projects") :: (table.head.map Part.content ++
    (.directive (.each "jobs") :: table.row.map Part.content ++ [.directive .close]) ++
    table.foot.map Part.content) ++ [.directive .close]

/-- The block of a project: its head, the rows of its jobs in order, and its foot. -/
def block (options : Options) (table : Table) (project : Invoice.Project) : String :=
  fillAll options table.head project ++
    String.join (project.jobs.map (fillAll options table.row)) ++
    fillAll options table.foot project

end Table

end Form

/-- What a template makes of an invoice document: parts that do not depend on the projects, and a
table of the projects between them, if there is one. -/
structure Form where
  before : List (Form.Part Invoice.Document)
  table : Option Form.Table := none
  after : List (Form.Part Invoice.Document) := []

namespace Form

/-- A document without its projects. -/
def cover (document : Invoice.Document) : Invoice.Document := { document with projects := [] }

/-- A form as it is written in a template. -/
def contents (form : Form) : List Token.Content :=
  form.before.map Part.content ++ (form.table.elim [] Table.contents ++
    form.after.map Part.content)

/-- A form filled in for a document: the text in front, the blocks of the projects in order, and the
text behind. -/
def fill (options : Options) (form : Form) (document : Invoice.Document) : String :=
  fillAll options form.before (cover document) ++
    ((form.table.elim "" fun table => String.join (document.projects.map (table.block options))) ++
      fillAll options form.after (cover document))

/-- The scope of a template for a document. -/
def scope (document : Invoice.Document) : Scope := .ofData document.toContext

/-- The scope in the loop over the projects. -/
def projectScope (place : Invoice.Document × Invoice.Project) : Scope :=
  (scope place.1).enter ⟨"projects", "project", place.2.toValue⟩

/-- The scope in the loop over the jobs. -/
def jobScope (place : (Invoice.Document × Invoice.Project) × Invoice.Job) : Scope :=
  (projectScope place.1).enter ⟨"jobs", "job", place.2.toValue⟩

/-- The paths of parts lead to the data that are filled in there, in the scopes of all places. -/
def Agree {ι α : Type} (scope : ι → Scope) (source : ι → α) (parts : List (Part α)) : Prop :=
  ∀ place, parts.map (Part.found? (scope place)) = parts.map (Part.given? (source place))

/-- In every document, the paths of a table lead to the data that are filled in there. -/
structure Table.Sound (table : Table) : Prop where
  head : Agree projectScope (·.2) table.head
  row : Agree jobScope (·.2) table.row
  foot : Agree projectScope (·.2) table.foot

/-- In every document, the paths of a form lead to the data that are filled in there. -/
structure Sound (form : Form) : Prop where
  before : Agree scope cover form.before
  table : ∀ table ∈ form.table, table.Sound
  after : Agree scope cover form.after

/-- Options under which the items of the two loops go by the names that forms use. -/
structure Names (options : Options) : Prop where
  projects : options.aliasFor "projects" = "project"
  jobs : options.aliasFor "jobs" = "job"

end Form

namespace Meaning

theorem append_assoc (first second third : Meaning) :
    (first.append second).append third = first.append (second.append third) := by
  simp [append, String.append_assoc]

/-- Meanings without warnings make one without warnings. -/
theorem concat_silent {α : Type} (items : List α) {meaning : α → Meaning} {text : α → String}
    (each : ∀ item, meaning item = ⟨text item, []⟩) :
    concat (items.map meaning) = ⟨String.join (items.map text), []⟩ := by
  induction items with
  | nil => rfl
  | cons item rest ih =>
    rw [List.map_cons, concat, ih, each, List.map_cons, String.join_cons]
    rfl

end Meaning

namespace Node

variable {options : Options} {scope : Scope}

theorem meaningAll_append (front back : List Node) :
    meaningAll options scope (front ++ back) =
      (meaningAll options scope front).append (meaningAll options scope back) := by
  induction front with
  | nil => simp [meaningAll, Meaning.append, Meaning.nothing]
  | cons node rest ih => rw [List.cons_append, meaningAll, meaningAll, ih, Meaning.append_assoc]

theorem meaningAll_singleton (node : Node) :
    meaningAll options scope [node] = node.meaning options scope := by
  simp [meaningAll, Meaning.append, Meaning.nothing]

/-- A loop whose body has a text for each item means all these texts. -/
theorem meaningAll_loop_silent {α : Type} {items : List α} {toValue : α → Value}
    {text : α → String} {collection name : String} {position : Position} {body : List Node}
    (found : scope.resolve? collection = some (.list (items.map toValue)))
    (named : options.aliasFor collection = name)
    (each : ∀ item, meaningAll options (scope.enter ⟨collection, name, toValue item⟩) body =
      ⟨text item, []⟩) :
    meaningAll options scope [loop collection position body] =
      ⟨String.join (items.map text), []⟩ := by
  rw [Scope.resolve?_eq_innermost?] at found
  have silent := Meaning.concat_silent items each
  rw [meaningAll_singleton, meaning, found, named]
  simpa only [List.map_map, Function.comp_def] using silent

end Node

namespace Form

open Token

/-- Tokens make nodes, not more than some loops deep, that mean a text in the scope of each place. -/
def Yields {ι : Type} (given : List Token) (levels : Nat) (scope : ι → Scope)
    (text : Options → ι → String) : Prop :=
  ∃ nodes, Node.tokensAll nodes = given.map bare ∧ Node.heightAll nodes ≤ levels ∧
    ∀ options, Names options → ∀ place,
      Node.meaningAll options (scope place) nodes = ⟨text options place, []⟩

theorem Yields.nil {ι : Type} (levels : Nat) (scope : ι → Scope) :
    Yields [] levels scope fun _ _ => "" :=
  ⟨[], rfl, Nat.zero_le _, fun _ _ _ => rfl⟩

theorem Yields.append {ι : Type} {front back : List Token} {levels : Nat} {scope : ι → Scope}
    {first second : Options → ι → String} (inFront : Yields front levels scope first)
    (behind : Yields back levels scope second) :
    Yields (front ++ back) levels scope
      fun options place => first options place ++ second options place := by
  obtain ⟨left, leftWhole, leftHeight, leftMeans⟩ := inFront
  obtain ⟨right, rightWhole, rightHeight, rightMeans⟩ := behind
  refine ⟨left ++ right, ?_, ?_, fun options names place => ?_⟩
  · rw [Node.tokensAll_append, leftWhole, rightWhole, List.map_append]
  · rw [Node.heightAll_append]
    exact Nat.max_le.mpr ⟨leftHeight, rightHeight⟩
  · rw [Node.meaningAll_append, leftMeans options names, rightMeans options names]
    rfl

/-- A datum is shown, and never warned about. -/
theorem ofFound_datum (options : Options) (datum : Datum) (path : String) (place : Place) :
    Meaning.ofFound options path place datum.toValue =
      ⟨escapeMarkup (datum.toValue.format options (options.hintFor path)), []⟩ := by
  rcases datum with (_ | words) | (_ | day) | (_ | number) <;> rfl

/-- A token that is written like a part means the part filled in. -/
theorem yields_part {ι α : Type} {part : Part α} {token : Token} (same : token.content = part.content)
    (levels : Nat) {scope : ι → Scope} {source : ι → α}
    (agree : ∀ place, part.found? (scope place) = part.given? (source place)) :
    Yields [token] levels scope fun options place => part.fill options (source place) := by
  obtain ⟨content, position⟩ := token
  obtain rfl : content = _ := same
  cases part with
  | words text =>
    refine ⟨[.text text], rfl, Nat.zero_le _, fun options _ place => ?_⟩
    rw [Node.meaningAll_singleton, Node.meaning]
    rfl
  | field path datum =>
    refine ⟨[.value path position], rfl, Nat.zero_le _, fun options _ place => ?_⟩
    have found : (scope place).innermost? path = some (datum (source place)).toValue :=
      ((scope place).resolve?_eq_innermost? path).symm.trans (agree place)
    rw [Node.meaningAll_singleton, Node.meaning, Meaning.ofValue, found]
    exact ofFound_datum options _ path position.toPlace

/-- Tokens that are written like parts mean the parts filled in. -/
theorem yields_parts {ι α : Type} {parts : List (Part α)} {given : List Token}
    (same : given.map (·.content) = parts.map Part.content) (levels : Nat) {scope : ι → Scope}
    {source : ι → α} (agree : Agree scope source parts) :
    Yields given levels scope fun options place => fillAll options parts (source place) := by
  induction parts generalizing given with
  | nil =>
    obtain rfl := List.map_eq_nil_iff.mp same
    exact .nil levels scope
  | cons part rest ih =>
    obtain ⟨token, later, rfl, here, behind⟩ := List.map_eq_cons_iff.mp same
    have first := yields_part here levels fun place => (List.cons.inj (agree place)).1
    have second := ih behind fun place => (List.cons.inj (agree place)).2
    simpa only [fillAll, List.map_cons, String.join_cons, List.singleton_append] using
      first.append second

/-- Tokens that are written like a loop mean what those inside it mean for each item. -/
theorem yields_loop {ι α : Type} (toValue : α → Value) {collection name : String}
    {contents : List Content} {given : List Token} (same : given.map (·.content) =
      .directive (.each collection) :: contents ++ [.directive .close])
    {levels : Nat} {scope : ι → Scope} {items : ι → List α} {text : Options → ι → α → String}
    (found : ∀ place, (scope place).resolve? collection = some (.list ((items place).map toValue)))
    (named : ∀ options, Names options → options.aliasFor collection = name)
    (body : ∀ inside : List Token, inside.map (·.content) = contents →
      Yields inside levels
        (fun place : ι × α => (scope place.1).enter ⟨collection, name, toValue place.2⟩)
        fun options place => text options place.1 place.2) :
    Yields given (levels + 1) scope fun options place =>
      String.join ((items place).map (text options place)) := by
  obtain ⟨⟨_, position⟩, rest, rfl, here, behind⟩ := List.map_eq_cons_iff.mp same
  obtain ⟨inside, last, rfl, within, closing⟩ := List.map_eq_append_iff.mp behind
  obtain ⟨⟨_, ends⟩, rfl, closes⟩ := List.map_eq_singleton_iff.mp closing
  cases here
  cases closes
  obtain ⟨nodes, whole, height, means⟩ := body inside within
  refine ⟨[.loop collection position nodes], ?_, ?_, fun options names place => ?_⟩
  · rw [Node.tokensAll_singleton, Node.tokens, whole]
    simp [bare]
  · simpa [Node.heightAll, Node.height] using height
  · exact Node.meaningAll_loop_silent (found place) (named options names)
      fun item => means options names (place, item)

/-- Tokens that are written like a table mean the blocks of the projects. -/
theorem yields_table {table : Table} (sound : table.Sound) {given : List Token}
    (same : given.map (·.content) = table.contents) :
    Yields given 2 scope fun options document =>
      String.join (document.projects.map (table.block options)) := by
  apply yields_loop Invoice.Project.toValue same (fun _ => rfl) (fun _ names => names.projects)
  intro inside within
  obtain ⟨upper, lower, rfl, upperSame, lowerSame⟩ := List.map_eq_append_iff.mp within
  obtain ⟨first, second, rfl, firstSame, secondSame⟩ := List.map_eq_append_iff.mp upperSame
  have rows : Yields second 1 projectScope fun options place =>
      String.join (place.2.jobs.map (fillAll options table.row)) := by
    apply yields_loop Invoice.Job.toValue secondSame (fun _ => rfl) (fun _ names => names.jobs)
    intro inside within
    exact yields_parts within 0 sound.row
  exact ((yields_parts firstSame 1 sound.head).append rows).append
    (yields_parts lowerSame 1 sound.foot)

/-- Tokens that are written like a form mean the form filled in. -/
theorem yields_form {form : Form} (sound : form.Sound) {given : List Token}
    (same : given.map (·.content) = form.contents) :
    Yields given 2 scope fun options document => form.fill options document := by
  obtain ⟨first, rest, rfl, firstSame, restSame⟩ := List.map_eq_append_iff.mp same
  obtain ⟨second, third, rfl, secondSame, thirdSame⟩ := List.map_eq_append_iff.mp restSame
  have middle : Yields second 2 scope fun options document =>
      form.table.elim "" fun table =>
        String.join (document.projects.map (table.block options)) := by
    have tables := sound.table
    cases given : form.table with
    | none =>
      rw [given] at secondSame
      obtain rfl := List.map_eq_nil_iff.mp secondSame
      exact .nil 2 scope
    | some table =>
      rw [given] at secondSame
      exact yields_table (tables table given) secondSame
  exact (yields_parts firstSame 2 sound.before).append
    (middle.append (yields_parts thirdSame 2 sound.after))

/-- A body is written like a form: it has the same words, fields and loops, and nothing suspicious. -/
structure Writes (form : Form) (body : String) : Prop where
  contents : (scan body).tokens.map (·.content) = form.contents
  apart : Apart (scan body).tokens
  quiet : (scan body).warnings = []

/-- A body that is written like a form renders as the form filled in, whatever the document. -/
theorem Writes.renderBody {form : Form} {body : String} (writes : form.Writes body)
    (sound : form.Sound) (engine : Engine) (names : Names engine.options)
    (document : Invoice.Document) :
    engine.renderBody body document.toContext = .ok ⟨form.fill engine.options document, []⟩ := by
  obtain ⟨nodes, whole, height, means⟩ := yields_form sound writes.contents
  have apart : Node.ApartAll nodes := by
    apply Node.apartAll_of_tokensAll
    rw [whole]
    exact (List.isChain_map bare).mpr (by simpa [Token.Apart] using writes.apart)
  have built := Node.ofTokens_of_bare apart (height.trans (by decide)) whole.symm
  have made : Parsed.ofBody body = .ok ⟨nodes, []⟩ :=
    Parsed.ofStream_eq_ok_iff.mpr ⟨built, writes.quiet⟩
  have meaning := means engine.options names document
  rw [Engine.renderBody, made]
  change Except.ok (Parsed.render ⟨nodes, []⟩ document.toContext engine.options) = _
  rw [Parsed.render_eq]
  change Except.ok (Rendered.mk (Node.meaningAll engine.options (scope document) nodes).text
    ([] ++ (Node.meaningAll engine.options (scope document) nodes).warnings).eraseDups) = _
  rw [meaning]
  rfl

end Form

end Stencil
