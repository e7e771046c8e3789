import Mathlib.Data.List.Forall2
import Stencil.Proofs.Body.Flattening
import Stencil.Proofs.Command.Outcome
import Stencil.Proofs.Render.Reported

/-! # Findings about templates

Checking reads files one after the other, up to the first one that cannot be read. Every file that is
read gives one finding, and the lines for people, the report for programs and the exit code are all
made from the findings.
-/

namespace Stencil.Command

open Json Json.Reader

/-- What is reported about one file. -/
structure Finding where
  file : String
  ok : Bool
  fault? : Option (String × Place)
  warnings : List Warning

/-- A file can be read and does not parse. -/
def Faulty (world : World) (file : String) : Prop :=
  ∃ body fault, world.text? file = some body ∧ Parsed.ofBody body = .error fault

/-- A finding says of a file what there is to say about its text. -/
inductive Finding.Holds (world : World) : String → Finding → Prop
  | parsed {file body : String} {parsed : Parsed} (read : world.text? file = some body)
    (parses : Parsed.ofBody body = .ok parsed) :
    Holds world file ⟨file, true, none, (Token.scan body).warnings⟩
  | faulty {file body : String} {fault : Fault} (read : world.text? file = some body)
    (fails : Parsed.ofBody body = .error fault) :
    Holds world file ⟨file, false, some (fault.message, fault.position.toPlace), []⟩

/-- The line that is printed about a file that parses. -/
def okLine (file : String) : String := green "ok" ++ " " ++ file ++ "\n"

variable {world : World} {file body : String} {files : List String} {found : Finding}
  {findings : List Finding}

/-! ## Findings and reports -/

/-- The finding in a report. -/
def Report.finding (report : Report) : Finding :=
  match report.result with
  | .ok warnings => ⟨report.file, true, none, warnings⟩
  | .error fault => ⟨report.file, false, some (fault.message, fault.position.toPlace), []⟩

namespace Finding

/-- Reads what keeps a file from parsing. -/
def faultReader : Reader (String × Place) := fun draft => do
  return (← member "message" text draft, ← Warning.placeReader draft)

/-- Reads a finding. -/
def reader : Reader Finding := fun draft => do
  return ⟨← member "file" text draft, ← member "ok" bool draft,
    ← member? "error" faultReader draft, ← member "warnings" (Reader.list Warning.reader) draft⟩

theorem holds_ofBody (read : world.text? file = some body) :
    Holds world file (Report.ofBody file body).finding := by
  cases parses : Parsed.ofBody body with
  | error fault =>
    have told : (Report.ofBody file body).finding =
        ⟨file, false, some (fault.message, fault.position.toPlace), []⟩ := by
      rw [Report.ofBody, parses]
      rfl
    rw [told]
    exact .faulty read parses
  | ok parsed =>
    have scanned : parsed.warnings = (Token.scan body).warnings :=
      (Parsed.ofStream_eq_ok_iff.1 parses).2.symm
    have told : (Report.ofBody file body).finding =
        ⟨file, true, none, (Token.scan body).warnings⟩ := by
      rw [Report.ofBody, parses, ← scanned]
      rfl
    rw [told]
    exact .parsed read parses

theorem Holds.ok_iff (holds : Holds world file found) :
    found.ok = true ↔ ¬ Faulty world file := by
  cases holds with
  | parsed read parses => simp [Faulty, read, parses]
  | faulty read fails => simp [Faulty, read, fails]

theorem all_ok_iff (holds : List.Forall₂ (Holds world) files findings) :
    findings.all (·.ok) = true ↔ ¬ ∃ file ∈ files, Faulty world file := by
  induction holds with
  | nil => simp
  | cons first others ih => simp [first.ok_iff, ih]

end Finding

namespace Report

theorem isOk_eq (report : Report) : report.isOk = report.finding.ok := by
  obtain ⟨file, body, warnings | fault⟩ := report <;> rfl

theorem isExact_toJson (report : Report) : report.toJson.isExact = true := by
  obtain ⟨file, body, fault | warnings⟩ := report
  · simp [toJson, Warning.placeMembers, isExact, membersExact, areExact]
  · have exact' := areExact_map Warning.isExact_toJson warnings
    simp [toJson, isExact, membersExact, exact']

theorem reader_ofJson (report : Report) :
    Finding.reader (.ofJson report.toJson) = .ok report.finding := by
  obtain ⟨file, body, fault | warnings⟩ := report
  · have told : Reader.list Warning.reader (.ofJson (.array [])) = .ok [] := rfl
    simp [Finding.reader, Finding.faultReader, Warning.placeReader, toJson, Warning.placeMembers,
      member_ofJson, member?_ofJson, List.lookup_cons, told, bind, Except.bind, Except.map, pure,
      Except.pure, finding]
  · have told := list_ofJson Warning.reader_ofJson warnings
    simp [Finding.reader, toJson, member_ofJson, member?_ofJson, List.lookup_cons, told, bind,
      Except.bind, pure, Except.pure, finding]

/-- One line is printed about a file that parses, and none about another one. -/
theorem filterMap_printed?_actions (report : Report) :
    report.actions.filterMap Action.printed? =
      if report.finding.ok then [okLine report.finding.file] else [] := by
  obtain ⟨file, body, fault | warnings⟩ := report
  · exact (quiet_faultLines file body fault).filterMap_printed?
  · simp only [actions, List.filterMap_append, (quiet_warningLines file warnings).filterMap_printed?]
    rfl

end Report

/-! ## Reading files -/

theorem readReports_of_unreadable (missing : ∃ file ∈ files, world.text? file = none) :
    ∃ file, (readReports world files).2 = some file := by
  induction files with
  | nil => simp at missing
  | cons first rest ih =>
    rw [readReports]
    cases read : world.text? first with
    | none => exact ⟨first, rfl⟩
    | some body =>
      apply ih
      simpa [read] using missing

/-- Where every file can be read, there is one report on each, in order. -/
theorem readReports_of_readable (readable : ∀ file ∈ files, world.text? file ≠ none) :
    ∃ reports, readReports world files = (reports, none) ∧
      List.Forall₂ (Finding.Holds world) files (reports.map Report.finding) := by
  induction files with
  | nil => exact ⟨[], rfl, .nil⟩
  | cons first rest ih =>
    obtain ⟨body, read⟩ := Option.ne_none_iff_exists'.1 (readable first List.mem_cons_self)
    obtain ⟨reports, all, holds⟩ :=
      ih fun file member => readable file (List.mem_cons_of_mem first member)
    refine ⟨.ofBody first body :: reports, ?_, .cons (Finding.holds_ofBody read) holds⟩
    rw [readReports, read, all]

/-! ## Checking -/

theorem code_runCheck_of_unreadable (missing : ∃ file ∈ files, world.text? file = none)
    (json : Bool) : (runCheck world files json).code = 66 := by
  obtain ⟨file, missing⟩ := readReports_of_unreadable missing
  simp only [runCheck, missing]
  rfl

/-- What checking comes to once all files are read. -/
theorem runCheck_of_readable {reports : List Report}
    (read : readReports world files = (reports, none)) (json : Bool) :
    runCheck world files json =
      ⟨(if json then [] else reports.flatMap Report.actions) ++
        (if json then [.print ((Json.array (reports.map Report.toJson)).toPretty ++ "\n")] else []),
        if reports.all Report.isOk then 0 else 65⟩ := by
  simp only [runCheck, read]
  rfl

theorem printed_flatMap_actions (reports : List Report) :
    (reports.flatMap Report.actions).filterMap Action.printed? =
      ((reports.map Report.finding).filter (·.ok)).map fun found => okLine found.file := by
  induction reports with
  | nil => rfl
  | cons report reports ih =>
    rw [List.flatMap_cons, List.filterMap_append, ih, report.filterMap_printed?_actions,
      List.map_cons, List.filter_cons]
    split <;> rfl

/-- From the report a program gets the findings. -/
theorem ofText_report (reports : List Report) :
    Reader.ofText (Reader.list Finding.reader)
      ((Json.array (reports.map Report.toJson)).toPretty ++ "\n") =
        .ok (reports.map Report.finding) := by
  have whole : (Json.array (reports.map Report.toJson)).isExact = true :=
    areExact_map Report.isExact_toJson reports
  rw [Reader.ofText_toPretty _ whole]
  exact list_ofJson_map Report.reader_ofJson reports

/-- Checking ends with a code that says whether all files could be read and parse, the same in both
forms. If they could be read, the report for programs has one finding for each file that was given,
in order, and for people one line is printed for each finding that is good, in the same order. -/
theorem runCheck_tells (world : World) (files : List String) :
    let plain := runCheck world files false
    let listed := runCheck world files true
    listed.code = plain.code ∧
    Reflects plain.code (∃ file ∈ files, world.text? file = none)
      (∃ file ∈ files, Faulty world file) ∧
    ((∀ file ∈ files, world.text? file ≠ none) →
      ∃ findings, List.Forall₂ (Finding.Holds world) files findings ∧
        Reader.ofText (Reader.list Finding.reader) listed.printed = .ok findings ∧
        plain.printed =
          String.join ((findings.filter (·.ok)).map fun found => okLine found.file)) := by
  intro plain listed
  by_cases missing : ∃ file ∈ files, world.text? file = none
  · have code := code_runCheck_of_unreadable missing
    refine ⟨(code true).trans (code false).symm, ?_, fun readable => ?_⟩
    · rw [code false]
      exact reflects_noInput missing
    · obtain ⟨file, member, unread⟩ := missing
      exact absurd unread (readable file member)
  · have readable : ∀ file ∈ files, world.text? file ≠ none := by
      intro file member unread
      exact missing ⟨file, member, unread⟩
    obtain ⟨reports, read, holds⟩ := readReports_of_readable readable
    have plainRun : plain = _ := runCheck_of_readable read false
    have listedRun : listed = _ := runCheck_of_readable read true
    clear_value plain listed
    subst plainRun listedRun
    have sound : reports.all Report.isOk = true ↔ ¬ ∃ file ∈ files, Faulty world file := by
      rw [← Finding.all_ok_iff holds, List.all_map, funext Report.isOk_eq]
      rfl
    refine ⟨rfl, ⟨fun unread => absurd unread missing, fun _ faulty => ?_, fun _ good => ?_⟩, ?_⟩
    · exact if_neg fun good => sound.1 good faulty
    · exact if_pos (sound.2 good)
    · intro _
      refine ⟨reports.map Report.finding, holds, ?_, ?_⟩
      · exact ofText_report reports
      · simp [Outcome.printed, printed_flatMap_actions]

end Stencil.Command
