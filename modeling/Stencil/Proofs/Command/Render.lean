import Stencil.Proofs.Command.Outcome
import Stencil.Proofs.Render.Reported

/-! # Rendering for people and for programs

A request to render takes one of two courses, whatever form is asked for: it fails, and then there
are only complaints; or something is rendered, and only then the form matters (`course`). So both forms
end alike, and what one form prints can be told from what the other one does.
-/

namespace Stencil.Command

/-- A text is of use as a context: an invoice document, or any JSON. -/
def Usable (context : String) : Prop :=
  (∃ document, Invoice.Document.ofText context = .ok document) ∨
    ∃ json, Json.ofText? context = some json

theorem usable_iff {context : String} : Usable context ↔ (readContext? context).isSome = true := by
  unfold readContext? Usable
  split
  · next document read => simp [read]
  · next problem read => simp [read, Option.isSome_iff_exists]

namespace Render

/-- One of the two files of a request cannot be read. -/
def Unreadable (request : Render) (world : World) : Prop :=
  world.text? request.template = none ∨ world.text? request.context = none

/-- Of two files that can be read, the context is of no use or the template does not parse. -/
def Senseless (request : Render) (world : World) : Prop :=
  ∃ body context, world.text? request.template = some body ∧
    world.text? request.context = some context ∧
    (¬ Usable context ∨ ∃ fault, Parsed.ofBody body = .error fault)

/-- A request in the form for people or for programs. -/
def inForm (request : Render) (json : Bool) : Render := { request with json }

/-- The text of something rendered in either form. -/
def textOf (rendered : Rendered) : Bool → String
  | false => rendered.output
  | true => rendered.toJson.toPretty ++ "\n"

/-- The warnings that are not in the text. -/
def warningsApart (rendered : Rendered) : Bool → List Warning
  | false => rendered.warnings
  | true => []

/-- What is done in either form once something is rendered. -/
def present (request : Render) (world : World) (rendered : Rendered) (json : Bool) : List Action :=
  request.log world ++ request.emit (textOf rendered json) ::
    (warningsApart rendered json).map (warningLine request.template)

/-- The courses that a request can take. -/
inductive Course (request : Render) (world : World) : Prop
  /-- There are only complaints, in both forms the same. -/
  | failed {actions : List Action} {code : Nat} (quiet : Quiet actions) (nonzero : code ≠ 0)
    (reflects : Reflects code (request.Unreadable world) (request.Senseless world))
    (runs : ∀ json, (request.inForm json).run world = ⟨actions, code⟩)
  /-- Both files are read and make sense, and the same is rendered for both forms. -/
  | done (rendered : Rendered) (readable : ¬ request.Unreadable world)
    (sensible : ¬ request.Senseless world)
    (runs : ∀ json, (request.inForm json).run world = ⟨request.present world rendered json, 0⟩)

variable {request : Render} {world : World} {body context : String}

theorem quiet_log (request : Render) (world : World) : Quiet (request.log world) := by
  unfold log
  extract_lets format
  split
  · intro action member
    cases member
  · exact quiet_map_complain _

theorem run_of_useless (request : Render) (template : world.text? request.template = some body)
    (given : world.text? request.context = some context) (found : readContext? context = none) :
    request.run world = ⟨[.report "Invalid context JSON"], Outcome.badData⟩ := by
  simp only [run, template, given, found]

theorem run_of_usable (request : Render) (template : world.text? request.template = some body)
    (given : world.text? request.context = some context) {data : Value}
    (found : readContext? context = some data) :
    request.run world = request.finish world body data := by
  simp only [run, template, given, found]

theorem finish_of_fault (request : Render) (world : World) {fault : Fault}
    (fails : Parsed.ofBody body = .error fault) (data : Value) :
    request.finish world body data =
      ⟨request.log world ++ faultLines request.template body fault, Outcome.badData⟩ := by
  rw [finish, Engine.renderBody, fails]
  rfl

theorem finish_of_parsed (request : Render) (world : World) {parsed : Parsed}
    (parses : Parsed.ofBody body = .ok parsed) (data : Value) :
    request.finish world body data =
      ⟨request.present world (parsed.render data (request.options world)) request.json, 0⟩ := by
  rw [finish, Engine.renderBody, parses, present]
  cases request.json <;> rfl

/-- Every request takes one of the courses. -/
theorem course (request : Render) (world : World) : request.Course world := by
  cases template : world.text? request.template with
  | none =>
    apply Course.failed (quiet_unreadable request.template) (by decide)
      (reflects_noInput (.inl template))
    intro json
    rw [run, inForm, template]
  | some body =>
    cases given : world.text? request.context with
    | none =>
      apply Course.failed (quiet_unreadable request.context) (by decide)
        (reflects_noInput (.inr given))
      intro json
      rw [run, inForm, template, given]
    | some context =>
      have readable : ¬ request.Unreadable world := by simp [Unreadable, template, given]
      cases found : readContext? context with
      | none =>
        have useless : ¬ Usable context := by simp [usable_iff, found]
        have senseless : request.Senseless world := ⟨body, context, template, given, .inl useless⟩
        apply Course.failed (quiet_map_complain [reportText "Invalid context JSON"]) (by decide)
          (reflects_badData readable senseless)
        intro json
        exact run_of_useless (request.inForm json) template given found
      | some data =>
        have runs (json : Bool) := run_of_usable (request.inForm json) template given found
        cases parses : Parsed.ofBody body with
        | error fault =>
          have senseless : request.Senseless world :=
            ⟨body, context, template, given, .inr ⟨fault, parses⟩⟩
          have quiet := (quiet_log request world).append
            (quiet_faultLines request.template body fault)
          apply Course.failed quiet (by decide) (reflects_badData readable senseless)
          intro json
          rw [runs json]
          exact finish_of_fault (request.inForm json) world parses data
        | ok parsed =>
          have usable : Usable context := by simp [usable_iff, found]
          have sensible : ¬ request.Senseless world := by
            simp [Senseless, template, given, usable, parses]
          apply Course.done (parsed.render data (request.options world)) readable sensible
          intro json
          rw [runs json]
          exact finish_of_parsed (request.inForm json) world parses data

/-! ## What is put out -/

variable {front back : List Action}

/-- Among complaints, the text that is emitted is all that comes out. -/
theorem delivers_emit (request : Render) (before : Quiet front) (after : Quiet back) (text : String)
    (code : Nat) :
    Outcome.Delivers ⟨front ++ request.emit text :: back, code⟩ text request.output := by
  obtain ⟨printed, written⟩ := before.around after (request.emit text)
  cases output : request.output with
  | none =>
    rw [emit, output] at printed written ⊢
    have only : String.join [text] = text := by simp
    exact ⟨(congrArg String.join printed).trans only, written⟩
  | some file =>
    rw [emit, output] at printed written ⊢
    exact ⟨congrArg String.join printed, written⟩

theorem complained?_emit (request : Render) (text : String) :
    Action.complained? (request.emit text) = none := by
  unfold emit
  split <;> rfl

theorem delivers_present (request : Render) (world : World) (rendered : Rendered) (json : Bool) :
    Outcome.Delivers ⟨request.present world rendered json, 0⟩ (textOf rendered json)
      request.output :=
  delivers_emit request (quiet_log request world) (quiet_warningLines _ _) _ _

theorem complaints_present (request : Render) (world : World) (rendered : Rendered) (json : Bool) :
    Outcome.complaints ⟨request.present world rendered json, 0⟩ =
      (request.log world).filterMap Action.complained? ++
        (warningsApart rendered json).map fun warning =>
          boldYellow "warning" ++ ": " ++ request.template ++ ": " ++ warning.message ++ "\n" := by
  have lines (warnings : List Warning) :
      (warnings.map (warningLine request.template)).filterMap Action.complained? =
        warnings.map fun warning =>
          boldYellow "warning" ++ ": " ++ request.template ++ ": " ++ warning.message ++ "\n" := by
    rw [List.filterMap_map, ← List.filterMap_eq_map]
    rfl
  rw [Outcome.complaints, present, List.filterMap_append, List.filterMap_cons, complained?_emit,
    lines]

/-- The outcome of a request in a form where files can be written as `canWrite` says. -/
def outcome (request : Render) (world : World) (canWrite : String → Bool) (json : Bool) : Outcome :=
  ((request.inForm json).run world).settle canWrite

theorem outcome_eq_run {canWrite : String → Bool}
    (writable : ∀ file ∈ request.output, canWrite file = true) (world : World) (json : Bool) :
    request.outcome world canWrite json = (request.inForm json).run world := by
  apply Outcome.settle_of_writable
  obtain ⟨quiet, -, -, runs⟩ | ⟨rendered, -, -, runs⟩ := request.course world
  · intro entry member
    rw [runs, (quiet.silent _).written] at member
    cases member
  · intro entry member
    rw [runs] at member
    exact writable _ ((delivers_present request world rendered json).mem_output member)

/-- The two forms of rendering end with the same code, which says what could be read and made sense.
With success the text that is put out for people is the output in the JSON that is put out for
programs, and the warnings in the JSON are those that people are told, in order. Otherwise there are
the same complaints in both forms and nothing else. -/
theorem forms_agree (request : Render) (world : World) (canWrite : String → Bool)
    (writable : ∀ file ∈ request.output, canWrite file = true) :
    let plain := request.outcome world canWrite false
    let listed := request.outcome world canWrite true
    listed.code = plain.code ∧
    Reflects plain.code (request.Unreadable world) (request.Senseless world) ∧
    (plain.code = 0 → ∃ rendered json,
      plain.Delivers rendered.output request.output ∧ listed.Delivers json request.output ∧
      Json.Reader.ofText Rendered.reader json = .ok rendered ∧
      plain.complaints = listed.complaints ++ rendered.warnings.map fun warning =>
        boldYellow "warning" ++ ": " ++ request.template ++ ": " ++ warning.message ++ "\n") ∧
    (plain.code ≠ 0 → listed = plain ∧ plain.Silent) := by
  intro plain listed
  have plainRun : plain = _ := outcome_eq_run writable world false
  have listedRun : listed = _ := outcome_eq_run writable world true
  clear_value plain listed
  obtain ⟨quiet, nonzero, reflects, runs⟩ | ⟨rendered, readable, sensible, runs⟩ :=
    request.course world
  · rw [runs] at plainRun listedRun
    subst plainRun listedRun
    exact ⟨rfl, reflects, fun zero => absurd zero nonzero, fun _ => ⟨rfl, quiet.silent _⟩⟩
  · rw [runs] at plainRun listedRun
    subst plainRun listedRun
    refine ⟨rfl, reflects_success readable sensible,
      fun _ => ⟨rendered, textOf rendered true, ?_, ?_, ?_, ?_⟩, fun nonzero => absurd rfl nonzero⟩
    · exact delivers_present request world rendered false
    · exact delivers_present request world rendered true
    · exact rendered.ofText_toPretty
    · rw [complaints_present, complaints_present]
      simp [warningsApart]

/-- A request that writes a letter to a file. -/
def letter : Render where
  template := "letter.txt"
  context := "data.json"
  currencySymbol := none
  dateFormat := none
  aliases := []
  output := some "out.txt"
  json := false

/-- Two files with a template and its data. -/
def desk : World where
  text? file := [("letter.txt", "Dear \x7b\x7bname\x7d\x7d, \x7b\x7b"),
    ("data.json", "\x7b\"name\": \"Ann\"\x7d")].lookup file
  setting? _ := none

theorem forms_agree_letter :
    (∀ file ∈ letter.output, decide (file = "out.txt") = true) ∧
    ∃ rendered json,
      (letter.outcome desk (· = "out.txt") false).written = [("out.txt", rendered.output)] ∧
      (letter.outcome desk (· = "out.txt") true).written = [("out.txt", json)] ∧
      Json.Reader.ofText Rendered.reader json = .ok rendered := by
  have writable : ∀ file ∈ letter.output, decide (file = "out.txt") = true := by decide
  obtain ⟨-, -, success, -⟩ := forms_agree letter desk (· = "out.txt") writable
  obtain ⟨rendered, json, plain, listed, read, -⟩ := success (by decide +kernel)
  exact ⟨writable, rendered, json, plain.2, listed.2, read⟩

end Render

end Stencil.Command
