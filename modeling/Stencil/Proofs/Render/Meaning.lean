import Stencil.Proofs.Distinct
import Stencil.Proofs.Scope.Resolution
import Stencil.Render

/-! # What a template means

The meaning of a template in a scope is a text with the warnings about the data in the order in
which they come up, repeats included. It is defined by recursion on the nodes alone: no output is
threaded, no warning looked up, and no scope left again. Rendering adds exactly this meaning to what
was there before, and hands the scope back as it was (`renderAll_eq_add`); whether repeats are
dropped one by one or at the end makes no difference (`foldl_note`).
-/

namespace Stencil

/-- The value at a path in the innermost frame that has one. -/
def Scope.innermost? (scope : Scope) (path : String) : Option Value :=
  scope.frames.findSome? fun frame => frame (Text.segments path)

theorem Scope.resolve?_eq_innermost? (scope : Scope) (path : String) :
    scope.resolve? path = scope.innermost? path :=
  scope.resolveSegments?_eq_findSome?_frames (Text.segments path)

/-- A text, and the warnings about the data, in order and with repeats. -/
structure Meaning where
  text : String
  warnings : List Warning

namespace Meaning

/-- The meaning of what shows as nothing. -/
def nothing : Meaning := ⟨"", []⟩

/-- One meaning behind another. -/
def append (first second : Meaning) : Meaning :=
  ⟨first.text ++ second.text, first.warnings ++ second.warnings⟩

/-- Meanings one behind the other. -/
def concat : List Meaning → Meaning
  | [] => nothing
  | first :: rest => first.append (concat rest)

/-- The meaning of a value at a path. -/
def ofFound (options : Options) (path : String) (place : Place) : Value → Meaning
  | .map _ => ⟨"", [.notScalar path place]⟩
  | value => ⟨escapeMarkup (value.format options (options.hintFor path)), []⟩

/-- The meaning of a directive that shows a value. -/
def ofValue (options : Options) (scope : Scope) (path : String) (place : Place) : Meaning :=
  match scope.innermost? path with
  | some value => ofFound options path place value
  | none => ⟨"", [.unresolved path place scope.collections (scope.suggest path)]⟩

end Meaning

namespace Node

mutual

/-- The meaning of a node in a scope. -/
def meaning (options : Options) (scope : Scope) : Node → Meaning
  | text words => ⟨words, []⟩
  | value path position => .ofValue options scope path position.toPlace
  | loop collection position body =>
    match scope.innermost? collection with
    | some (Value.list items) =>
      .concat (items.map fun item =>
        meaningAll options (scope.enter ⟨collection, options.aliasFor collection, item⟩) body)
    | some other => ⟨"", [.notACollection collection other.kindName position.toPlace]⟩
    | none => ⟨"", [.missingCollection collection position.toPlace scope.collections]⟩

/-- The meaning of nodes, one behind the other. -/
def meaningAll (options : Options) (scope : Scope) : List Node → Meaning
  | [] => .nothing
  | node :: rest => (node.meaning options scope).append (meaningAll options scope rest)

end

end Node

namespace Progress

/-- Warnings with one more, unless it is there already. -/
def note (warnings : List Warning) (warning : Warning) : List Warning :=
  if warning ∈ warnings then warnings else warnings ++ [warning]

/-- Leaving out each repeat as it comes up leaves out all repeats. -/
theorem foldl_note (warnings : List Warning) : warnings.foldl note [] = warnings.eraseDups := by
  induction warnings using List.reverseRecOn with
  | nil => rfl
  | append_singleton warnings warning ih =>
    have step : (warnings ++ [warning]).foldl note [] = note warnings.eraseDups warning := by
      rw [List.foldl_append, ih]
      rfl
    rw [step, note, eraseDups_concat]
    simp only [List.mem_eraseDups]

/-- The progress with a meaning behind it. -/
def add (progress : Progress) (meaning : Meaning) : Progress where
  scope := progress.scope
  output := progress.output ++ meaning.text
  warnings := meaning.warnings.foldl note progress.warnings

theorem add_nothing (progress : Progress) : progress.add .nothing = progress := by
  simp [add, Meaning.nothing]

theorem add_append (progress : Progress) (first second : Meaning) :
    progress.add (first.append second) = (progress.add first).add second := by
  simp [add, Meaning.append, String.append_assoc]

theorem write_eq_add (progress : Progress) (text : String) :
    progress.write text = progress.add ⟨text, []⟩ := rfl

theorem warn_eq_add (progress : Progress) (warning : Warning) :
    progress.warn warning = progress.add ⟨"", [warning]⟩ := by
  simp only [warn, add, note, List.foldl_cons, List.foldl_nil, String.append_empty]
  split <;> rfl

theorem foldl_warn_eq_add (warnings : List Warning) (progress : Progress) :
    warnings.foldl warn progress = progress.add ⟨"", warnings⟩ := by
  induction warnings generalizing progress with
  | nil => exact (add_nothing progress).symm
  | cons warning rest ih =>
    rw [List.foldl_cons, ih, warn_eq_add, ← add_append]
    rfl

theorem showValue_eq_add (options : Options) (path : String) (place : Place) (value : Value)
    (progress : Progress) :
    progress.showValue options path place value =
      progress.add (.ofFound options path place value) := by
  cases value with
  | map entries => exact warn_eq_add _ _
  | _ => exact write_eq_add _ _

theorem renderValue_eq_add (options : Options) (path : String) (place : Place)
    (progress : Progress) :
    progress.renderValue options path place =
      progress.add (.ofValue options progress.scope path place) := by
  rw [renderValue, Meaning.ofValue, Scope.resolve?_eq_innermost?]
  cases progress.scope.innermost? path with
  | none => exact warn_eq_add _ _
  | some value => exact showValue_eq_add _ _ _ _ _

/-- Items rendered one after the other, each in a scope of its own that is left again. -/
theorem foldl_items_eq_add (options : Options) (body : List Node) (collection name : String)
    (rendered : ∀ progress, Node.renderAll options progress body =
      progress.add (Node.meaningAll options progress.scope body))
    (progress : Progress) (items : List Value) :
    items.foldl (fun progress item =>
        (Node.renderAll options (progress.enter ⟨collection, name, item⟩) body).leave) progress =
      progress.add (.concat (items.map fun item =>
        Node.meaningAll options (progress.scope.enter ⟨collection, name, item⟩) body)) := by
  induction items generalizing progress with
  | nil => exact (add_nothing progress).symm
  | cons item rest ih =>
    rw [List.foldl_cons, rendered, ih, List.map_cons, Meaning.concat, add_append]
    rfl

end Progress

namespace Node

mutual

/-- Rendering a node adds its meaning. -/
theorem render_eq_add (options : Options) (progress : Progress) : (node : Node) →
    node.render options progress = progress.add (node.meaning options progress.scope)
  | text words => by
    rw [render, meaning]
    exact Progress.write_eq_add _ _
  | value path position => by
    rw [render, meaning]
    exact Progress.renderValue_eq_add _ _ _ _
  | loop collection position body => by
    rw [render, meaning, Progress.loopItems, Scope.resolve?_eq_innermost?]
    cases progress.scope.innermost? collection with
    | none => exact Progress.warn_eq_add _ _
    | some found =>
      cases found with
      | list items =>
        exact Progress.foldl_items_eq_add options body collection _
          (fun inner => renderAll_eq_add options inner body) progress items
      | _ => exact Progress.warn_eq_add _ _

/-- Rendering nodes adds their meaning, and leaves the scope as it was. -/
theorem renderAll_eq_add (options : Options) (progress : Progress) : (nodes : List Node) →
    renderAll options progress nodes = progress.add (meaningAll options progress.scope nodes)
  | [] => by
    rw [renderAll, meaningAll, Progress.add_nothing]
  | node :: rest => by
    rw [renderAll, meaningAll, Progress.add_append, renderAll_eq_add options _ rest,
      render_eq_add options progress node]
    rfl

end

end Node

namespace Parsed

theorem render_eq (parsed : Parsed) (data : Value) (options : Options) :
    parsed.render data options =
      ⟨(Node.meaningAll options (.ofData data) parsed.nodes).text,
        (parsed.warnings ++
          (Node.meaningAll options (.ofData data) parsed.nodes).warnings).eraseDups⟩ := by
  rw [render, Node.renderAll_eq_add, Progress.foldl_warn_eq_add, ← Progress.foldl_note,
    List.foldl_append]
  simp [Progress.add]

/-- Rendering gives the meaning of a template: its text, and after the warnings about its body those
about the data, each of them once, where it first came up. On the way the scope is handed on as it
was found. -/
theorem render_eq_meaning (parsed : Parsed) (data : Value) (options : Options) :
    (parsed.render data options).output =
      (Node.meaningAll options (.ofData data) parsed.nodes).text ∧
    (parsed.render data options).warnings =
      (parsed.warnings ++
        (Node.meaningAll options (.ofData data) parsed.nodes).warnings).eraseDups ∧
    ∀ (progress : Progress) (nodes : List Node),
      (Node.renderAll options progress nodes).scope = progress.scope := by
  let empty : Progress := ⟨.ofData data, "", []⟩
  have finished : Node.renderAll options (parsed.warnings.foldl Progress.warn empty) parsed.nodes =
      empty.add (Meaning.append ⟨"", parsed.warnings⟩
        (Node.meaningAll options (.ofData data) parsed.nodes)) := by
    rw [Node.renderAll_eq_add, Progress.foldl_warn_eq_add, Progress.add_append]
    rfl
  refine ⟨?_, ?_, fun progress nodes => by rw [Node.renderAll_eq_add]; rfl⟩
  · rw [render, finished]
    simp [empty, Progress.add, Meaning.append]
  · rw [render, finished]
    exact Progress.foldl_note _

end Parsed

end Stencil
