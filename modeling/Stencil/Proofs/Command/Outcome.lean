import Stencil.Command.Run

/-! # What an outcome looks like from outside

Of an outcome one sees a text on the output, texts on the error output, files with new texts, and the
exit code. Actions that only complain change nothing but the error output, wherever they stand.
-/

namespace Stencil.Command

namespace Action

/-- What is printed. -/
def printed? : Action → Option String
  | print text => some text
  | _ => none

/-- What is printed to the error output. -/
def complained? : Action → Option String
  | complain text => some text
  | _ => none

/-- The file that is written, and its text. -/
def written? : Action → Option (String × String)
  | write file text => some (file, text)
  | _ => none

end Action

namespace Outcome

/-- The text on the output. -/
def printed (outcome : Outcome) : String := String.join (outcome.actions.filterMap Action.printed?)

/-- The texts on the error output, in order. -/
def complaints (outcome : Outcome) : List String := outcome.actions.filterMap Action.complained?

/-- The files that are written, in order, with their texts. -/
def written (outcome : Outcome) : List (String × String) :=
  outcome.actions.filterMap Action.written?

/-- Nothing comes out and no file is written. -/
structure Silent (outcome : Outcome) : Prop where
  printed : outcome.printed = ""
  written : outcome.written = []

/-- One text comes out and nothing else: into a file if there is one for it, else printed. -/
def Delivers (outcome : Outcome) (text : String) : Option String → Prop
  | some file => outcome.printed = "" ∧ outcome.written = [(file, text)]
  | none => outcome.printed = text ∧ outcome.written = []

end Outcome

/-- An exit code reflects how a command ended that reads files: whether one of them cannot be read,
and if they all can, whether their texts make no sense. -/
structure Reflects (code : Nat) (unreadable senseless : Prop) : Prop where
  noInput : unreadable → code = 66
  badData : ¬ unreadable → senseless → code = 65
  success : ¬ unreadable → ¬ senseless → code = 0

section Reflects

variable {unreadable senseless : Prop}

theorem reflects_noInput (missing : unreadable) :
    Reflects Outcome.noInput unreadable senseless where
  noInput _ := rfl
  badData readable := absurd missing readable
  success readable := absurd missing readable

theorem reflects_badData (readable : ¬ unreadable) (bad : senseless) :
    Reflects Outcome.badData unreadable senseless where
  noInput missing := absurd missing readable
  badData _ _ := rfl
  success _ sensible := absurd bad sensible

theorem reflects_success (readable : ¬ unreadable) (sensible : ¬ senseless) :
    Reflects Outcome.success unreadable senseless where
  noInput missing := absurd missing readable
  badData _ bad := absurd bad sensible
  success _ _ := rfl

end Reflects

/-- All actions print to the error output. -/
def Quiet (actions : List Action) : Prop := ∀ action ∈ actions, ∃ text, action = .complain text

variable {actions others : List Action} {outcome : Outcome}

theorem quiet_map_complain (texts : List String) : Quiet (texts.map .complain) := by
  intro action member
  obtain ⟨text, -, rfl⟩ := List.mem_map.1 member
  exact ⟨text, rfl⟩

theorem quiet_warningLines (file : String) (warnings : List Warning) :
    Quiet (warnings.map (warningLine file)) := by
  intro action member
  obtain ⟨warning, -, rfl⟩ := List.mem_map.1 member
  exact ⟨_, rfl⟩

theorem quiet_faultLines (file body : String) (fault : Fault) :
    Quiet (faultLines file body fault) := by
  intro action member
  simp only [faultLines, List.mem_cons, List.not_mem_nil, or_false] at member
  rcases member with rfl | rfl | rfl <;> exact ⟨_, rfl⟩

theorem quiet_unreadable (file : String) : Quiet [unreadable file] := by
  intro action member
  exact ⟨_, List.mem_singleton.1 member⟩

namespace Quiet

theorem append (first : Quiet actions) (second : Quiet others) : Quiet (actions ++ others) := by
  intro action member
  rcases List.mem_append.1 member with front | back
  · exact first action front
  · exact second action back

theorem filterMap_printed? (quiet : Quiet actions) : actions.filterMap Action.printed? = [] := by
  rw [List.filterMap_eq_nil_iff]
  intro action member
  obtain ⟨text, rfl⟩ := quiet action member
  rfl

theorem filterMap_written? (quiet : Quiet actions) : actions.filterMap Action.written? = [] := by
  rw [List.filterMap_eq_nil_iff]
  intro action member
  obtain ⟨text, rfl⟩ := quiet action member
  rfl

/-- Among complaints, one action does all that can be seen besides. -/
theorem around (before : Quiet actions) (after : Quiet others) (action : Action) :
    (actions ++ action :: others).filterMap Action.printed? = action.printed?.toList ∧
      (actions ++ action :: others).filterMap Action.written? = action.written?.toList := by
  rw [List.filterMap_append, List.filterMap_append, before.filterMap_printed?,
    before.filterMap_written?, List.nil_append, List.nil_append, List.filterMap_cons,
    List.filterMap_cons, after.filterMap_printed?, after.filterMap_written?]
  constructor
  · cases action.printed? <;> rfl
  · cases action.written? <;> rfl

theorem silent (quiet : Quiet actions) (code : Nat) : Outcome.Silent ⟨actions, code⟩ where
  printed := by
    rw [Outcome.printed, quiet.filterMap_printed?]
    rfl
  written := quiet.filterMap_written?

end Quiet

/-- No other file is written than the one for the text. -/
theorem Outcome.Delivers.mem_output {text : String} {output : Option String}
    {entry : String × String} (delivers : outcome.Delivers text output)
    (member : entry ∈ outcome.written) : entry.1 ∈ output := by
  cases output with
  | none =>
    rw [delivers.2] at member
    cases member
  | some file =>
    rw [delivers.2] at member
    rw [List.mem_singleton.1 member]
    rfl

/-- Where every file can be written, an outcome is carried out to its end. -/
theorem Outcome.settle_of_writable {canWrite : String → Bool}
    (writable : ∀ entry ∈ outcome.written, canWrite entry.1 = true) :
    outcome.settle canWrite = outcome := by
  unfold Outcome.settle
  extract_lets blocked
  have free : outcome.actions.findSome? blocked = none := by
    rw [List.findSome?_eq_none_iff]
    intro action member
    cases action with
    | print text => rfl
    | complain text => rfl
    | write file text =>
      have possible := writable (file, text) (List.mem_filterMap.2 ⟨_, member, rfl⟩)
      exact if_pos possible
  rw [free]

end Stencil.Command
