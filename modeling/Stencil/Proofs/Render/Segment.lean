import Stencil.Proofs.Render.Meaning
import Stencil.Proofs.Text.Markup

/-! # Where the output comes from

A rendering visits the texts and the values of a template one after the other, those of a loop's
body once for each item. The output is what each visit writes on its own, one piece behind the other
(`meaningAll_text`): a text is written as it is, and whatever the data puts in the place of a value
is inert (`inert_output_value`). So all markup of the output is markup of the template.
-/

namespace Stencil

open Text.Entities

/-- What a rendering visits: the nodes that have no nodes inside them. -/
inductive Leaf where
  | text (words : String)
  | value (path : String) (position : Position)

namespace Leaf

/-- A leaf as a node of a template. -/
def node : Leaf → Node
  | text words => .text words
  | value path position => .value path position

/-- The words of a text. -/
def words? : Leaf → Option String
  | text words => some words
  | value _ _ => none

end Leaf

/-- A leaf of a template, and the scope in which a rendering comes to it. -/
structure Visit where
  scope : Scope
  leaf : Leaf

/-- What a visit writes: the output of rendering its leaf and nothing else. -/
def Visit.output (options : Options) (visit : Visit) : String :=
  (visit.leaf.node.render options ⟨visit.scope, "", []⟩).output

namespace Node

mutual

/-- The visits of a node in a scope, in order. -/
def visits (options : Options) (scope : Scope) : Node → List Visit
  | text words => [⟨scope, .text words⟩]
  | value path position => [⟨scope, .value path position⟩]
  | loop collection _ body =>
    match scope.resolve? collection with
    | some (Value.list items) =>
      items.flatMap fun item =>
        visitsAll options (scope.enter ⟨collection, options.aliasFor collection, item⟩) body
    | _ => []

/-- The visits of nodes, one after the other. -/
def visitsAll (options : Options) (scope : Scope) : List Node → List Visit
  | [] => []
  | node :: rest => node.visits options scope ++ visitsAll options scope rest

end

end Node

namespace Visit

variable {options : Options}

theorem output_eq_meaning_text (visit : Visit) :
    visit.output options = (visit.leaf.node.meaning options visit.scope).text := by
  rw [output, Node.render_eq_add]
  exact String.empty_append

/-- A text is written as it is. -/
theorem output_text (scope : Scope) (words : String) :
    output options ⟨scope, .text words⟩ = words := by
  rw [output_eq_meaning_text, Leaf.node, Node.meaning]

theorem inert_ofFound (path : String) (place : Place) (found : Value) :
    Inert (Meaning.ofFound options path place found).text.toList := by
  cases found with
  | map entries => exact .nil
  | _ => exact inert_escapeMarkup _

/-- What is written for a value is inert, whatever its kind and whatever the options. -/
theorem inert_output_value (scope : Scope) (path : String) (position : Position) :
    Inert (output options ⟨scope, .value path position⟩).toList := by
  rw [output_eq_meaning_text, Leaf.node, Node.meaning, Meaning.ofValue]
  cases scope.innermost? path with
  | none => exact .nil
  | some found => exact inert_ofFound path position.toPlace found

/-- Only texts write marks, each its own. -/
theorem count_output {mark : Char} (member : mark ∈ marks) (visits : List Visit) :
    (String.join (visits.map (output options))).toList.count mark =
      (String.join (visits.filterMap (·.leaf.words?))).toList.count mark := by
  induction visits with
  | nil => rfl
  | cons visit rest ih =>
    rw [List.map_cons, String.join_cons, String.toList_append, List.count_append, ih,
      List.filterMap_cons]
    rcases visit with ⟨scope, words | ⟨path, position⟩⟩
    · rw [output_text, Leaf.words?, String.join_cons, String.toList_append, List.count_append]
    · have markless := (@inert_output_value options scope path position).markless mark member
      rw [List.count_eq_zero.mpr markless, Nat.zero_add, Leaf.words?]

end Visit

/-- If each meaning is the text of some pieces, their concatenation is the text of all the pieces. -/
theorem Meaning.concat_text {α : Type} (items : List α) (meaning : α → Meaning)
    (pieces : α → List String) (each : ∀ item, (meaning item).text = String.join (pieces item)) :
    (concat (items.map meaning)).text = String.join (items.flatMap pieces) := by
  induction items with
  | nil => rfl
  | cons item rest ih =>
    rw [List.map_cons, concat, append, List.flatMap_cons, String.join_append, ← each, ← ih]

namespace Node

mutual

/-- The text of a node is what its visits write. -/
theorem meaning_text (options : Options) (scope : Scope) : (node : Node) →
    (node.meaning options scope).text =
      String.join ((node.visits options scope).map (Visit.output options))
  | text words => by
    rw [visits, List.map_singleton, Visit.output_text, meaning]
    simp [String.join]
  | value path position => by
    rw [visits, List.map_singleton, Visit.output_eq_meaning_text]
    simp [String.join, Leaf.node]
  | loop collection position body => by
    rw [meaning, visits, Scope.resolve?_eq_innermost?]
    cases scope.innermost? collection with
    | none => rfl
    | some found =>
      cases found with
      | list items =>
        dsimp only
        rw [List.map_flatMap]
        exact Meaning.concat_text items _ _ fun item => meaningAll_text options _ body
      | _ => rfl

/-- The text of nodes is what their visits write. -/
theorem meaningAll_text (options : Options) (scope : Scope) : (nodes : List Node) →
    (meaningAll options scope nodes).text =
      String.join ((visitsAll options scope nodes).map (Visit.output options))
  | [] => rfl
  | node :: rest => by
    rw [visitsAll, List.map_append, String.join_append, ← meaning_text options scope node,
      ← meaningAll_text options scope rest, meaningAll, Meaning.append]

end

mutual

/-- What is visited stands in the template, inside the loops of its scope. -/
theorem mem_walk (options : Options) (scope : Scope) : (node : Node) →
    ∀ visit ∈ node.visits options scope,
      (visit.scope.collections, visit.leaf.node) ∈ node.walk scope.collections
  | text words => by
    intro visit member
    rw [visits] at member
    obtain rfl := List.mem_singleton.mp member
    exact List.mem_singleton_self _
  | value path position => by
    intro visit member
    rw [visits] at member
    obtain rfl := List.mem_singleton.mp member
    exact List.mem_singleton_self _
  | loop collection position body => by
    intro visit member
    rw [visits] at member
    split at member
    · obtain ⟨item, _, within⟩ := List.mem_flatMap.mp member
      have inner := mem_walkAll options _ body visit within
      rw [Scope.collections_enter] at inner
      rw [walk]
      exact List.mem_cons_of_mem _ inner
    · cases member

/-- What is visited stands among the nodes, inside the loops of its scope. -/
theorem mem_walkAll (options : Options) (scope : Scope) : (nodes : List Node) →
    ∀ visit ∈ visitsAll options scope nodes,
      (visit.scope.collections, visit.leaf.node) ∈ walkAll scope.collections nodes
  | [] => by
    intro visit member
    cases member
  | node :: rest => by
    intro visit member
    rw [visitsAll] at member
    rw [walkAll]
    rcases List.mem_append.mp member with first | later
    · exact List.mem_append_left _ (mem_walk options scope node visit first)
    · exact List.mem_append_right _ (mem_walkAll options scope rest visit later)

end

end Node

namespace Parsed

/-- The visits of a template rendered with some data. -/
def visits (parsed : Parsed) (data : Value) (options : Options) : List Visit :=
  Node.visitsAll options (.ofData data) parsed.nodes

/-- The output is put together from what the visits to the template's leaves write: each text as it
is, and for each value a text that opens no markup. So it has no more marks than the texts have. -/
theorem render_eq_visits (parsed : Parsed) (data : Value) (options : Options) :
    (parsed.render data options).output =
      String.join ((parsed.visits data options).map (Visit.output options)) ∧
    (∀ visit ∈ parsed.visits data options,
      (visit.scope.collections, visit.leaf.node) ∈ parsed.walk ∧
      match visit.leaf with
      | .text words => visit.output options = words
      | .value _ _ => Inert (visit.output options).toList) ∧
    ∀ mark ∈ marks, (parsed.render data options).output.toList.count mark =
      (String.join ((parsed.visits data options).filterMap (·.leaf.words?))).toList.count mark := by
  have written : (parsed.render data options).output =
      String.join ((parsed.visits data options).map (Visit.output options)) := by
    rw [render, Node.renderAll_eq_add, Progress.foldl_warn_eq_add, visits, ← Node.meaningAll_text]
    simp [Progress.add]
  refine ⟨written, fun visit member => ⟨?_, ?_⟩, fun mark member => ?_⟩
  · exact Node.mem_walkAll options (.ofData data) parsed.nodes visit member
  · rcases visit with ⟨scope, words | ⟨path, position⟩⟩
    · exact Visit.output_text scope words
    · exact Visit.inert_output_value scope path position
  · rw [written, Visit.count_output member]

end Parsed

end Stencil
