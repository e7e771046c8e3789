import Stencil.Proofs.Body.Flattening
import Stencil.Proofs.Render.Meaning

/-! # Where warnings come from

Every warning about the data is about one directive of the tree: it carries the path and the place of
that directive, and the loops that it names are the ones around the directive. The scope in which a
directive is rendered has an item for each loop around it and for no other (`concerns_meaning`), and
dropping repeats adds nothing, so this holds of all the warnings of a rendering.
-/

namespace Stencil

/-- What a warning about the data is about: a node, and the loops around that node, outermost
first. -/
inductive Warning.Concerns : Warning → List String × Node → Prop
  | unresolved (path : String) (position : Position) (loops suggestions : List String) :
      Concerns (.unresolved path position.toPlace loops suggestions) (loops, .value path position)
  | notScalar (path : String) (position : Position) (loops : List String) :
      Concerns (.notScalar path position.toPlace) (loops, .value path position)
  | missingCollection (collection : String) (position : Position) (loops : List String)
      (body : List Node) :
      Concerns (.missingCollection collection position.toPlace loops)
        (loops, .loop collection position body)
  | notACollection (collection kind : String) (position : Position) (loops : List String)
      (body : List Node) :
      Concerns (.notACollection collection kind position.toPlace)
        (loops, .loop collection position body)

namespace Meaning

theorem mem_concat_warnings {meanings : List Meaning} {warning : Warning}
    (member : warning ∈ (concat meanings).warnings) :
    ∃ meaning ∈ meanings, warning ∈ meaning.warnings := by
  induction meanings with
  | nil => cases member
  | cons first rest ih =>
    rcases List.mem_append.mp member with here | later
    · exact ⟨first, List.mem_cons_self, here⟩
    · obtain ⟨meaning, among, given⟩ := ih later
      exact ⟨meaning, List.mem_cons_of_mem _ among, given⟩

theorem concerns_ofValue {options : Options} {scope : Scope} {path : String} {position : Position}
    {warning : Warning}
    (member : warning ∈ (ofValue options scope path position.toPlace).warnings) :
    warning.Concerns (scope.collections, .value path position) := by
  unfold ofValue at member
  split at member
  · next found _ =>
    cases found with
    | map entries =>
      obtain rfl := List.mem_singleton.mp member
      exact .notScalar path position _
    | _ => cases member
  · obtain rfl := List.mem_singleton.mp member
    exact .unresolved path position _ _

end Meaning

namespace Node

mutual

/-- The warnings of a node concern this node or one inside it. -/
theorem concerns_meaning (options : Options) (scope : Scope) : (node : Node) →
    ∀ warning ∈ (node.meaning options scope).warnings,
      ∃ walked ∈ node.walk scope.collections, warning.Concerns walked
  | text words => by
    intro warning member
    rw [meaning] at member
    cases member
  | value path position => by
    intro warning member
    rw [meaning] at member
    refine ⟨(scope.collections, value path position), ?_, Meaning.concerns_ofValue member⟩
    rw [walk]
    exact List.mem_singleton_self _
  | loop collection position body => by
    intro warning member
    rw [meaning] at member
    rw [walk]
    split at member
    · obtain ⟨_, among, given⟩ := Meaning.mem_concat_warnings member
      obtain ⟨item, _, rfl⟩ := List.mem_map.mp among
      obtain ⟨walked, inside, concerns⟩ := concerns_meaningAll options _ body warning given
      -- The item that the scope is entered with comes from this very loop.
      rw [Scope.collections_enter] at inside
      exact ⟨walked, List.mem_cons_of_mem _ inside, concerns⟩
    · obtain rfl := List.mem_singleton.mp member
      exact ⟨_, List.mem_cons_self, .notACollection collection _ position _ body⟩
    · obtain rfl := List.mem_singleton.mp member
      exact ⟨_, List.mem_cons_self, .missingCollection collection position _ body⟩

/-- The warnings of nodes concern these nodes or ones inside them. -/
theorem concerns_meaningAll (options : Options) (scope : Scope) : (nodes : List Node) →
    ∀ warning ∈ (meaningAll options scope nodes).warnings,
      ∃ walked ∈ walkAll scope.collections nodes, warning.Concerns walked
  | [] => by
    intro warning member
    rw [meaningAll] at member
    cases member
  | node :: rest => by
    intro warning member
    rw [meaningAll] at member
    rw [walkAll]
    rcases List.mem_append.mp member with here | later
    · obtain ⟨walked, among, concerns⟩ := concerns_meaning options scope node warning here
      exact ⟨walked, List.mem_append_left _ among, concerns⟩
    · obtain ⟨walked, among, concerns⟩ := concerns_meaningAll options scope rest warning later
      exact ⟨walked, List.mem_append_right _ among, concerns⟩

end

end Node

namespace Parsed

/-- The warnings of a rendering begin with those about the body, each once and in their order. Every
other one concerns a directive of the tree: it has the path and the place of that directive, and the
loops that it names are the loops around it. No warning is given twice. -/
theorem render_warnings_concern {body : String} {parsed : Parsed} (made : ofBody body = .ok parsed)
    (data : Value) (options : Options) :
    (Token.scan body).warnings.eraseDups <+: (parsed.render data options).warnings ∧
    (parsed.render data options).warnings.Nodup ∧
    ∀ warning ∈ (parsed.render data options).warnings,
      warning ∈ (Token.scan body).warnings ∨ ∃ walked ∈ parsed.walk, warning.Concerns walked := by
  have given : (Token.scan body).warnings = parsed.warnings := (ofStream_eq_ok_iff.mp made).2
  rw [render_eq, given]
  refine ⟨?_, nodup_eraseDups _, ?_⟩
  · rw [List.eraseDups_append]
    exact List.prefix_append _ _
  · intro warning member
    rcases List.mem_append.mp (List.mem_eraseDups.mp member) with about | data
    · exact .inl about
    · exact .inr (Node.concerns_meaningAll options _ parsed.nodes warning data)

/-- A body with a span that is no directive, and with a loop around a value. -/
def gaps : String := "\x7b\x7b?\x7d\x7d\x7b\x7b#each jobs\x7d\x7d\x7b\x7bjob.nmae\x7d\x7d\x7b\x7b/each\x7d\x7d"

/-- The tree of that body. -/
def gapsParsed : Parsed :=
  ⟨[.text "\x7b\x7b?\x7d\x7d", .loop "jobs" ⟨⟨1, 6⟩, 5⟩ [.value "job.nmae" ⟨⟨1, 20⟩, 19⟩]],
    [.malformed "\x7b\x7b?\x7d\x7d" ⟨1, 1⟩]⟩

theorem render_warnings_concern_gaps :
    ofBody gaps = .ok gapsParsed ∧
      let data : Value := .map [("jobs", .list [.map [("name", .null)], .map []])]
      (Token.scan gaps).warnings.eraseDups <+: (gapsParsed.render data {}).warnings ∧
      (gapsParsed.render data {}).warnings.Nodup ∧
      ∀ warning ∈ (gapsParsed.render data {}).warnings,
        warning ∈ (Token.scan gaps).warnings ∨
          ∃ walked ∈ gapsParsed.walk, warning.Concerns walked := by
  have tokens : (Token.scan gaps).tokens =
      [⟨.text "\x7b\x7b?\x7d\x7d", Position.start⟩, ⟨.directive (.each "jobs"), ⟨⟨1, 6⟩, 5⟩⟩,
        ⟨.directive (.value "job.nmae"), ⟨⟨1, 20⟩, 19⟩⟩, ⟨.directive .close, ⟨⟨1, 32⟩, 31⟩⟩] := by
    decide +kernel
  have warnings : (Token.scan gaps).warnings = gapsParsed.warnings := by decide +kernel
  have nodes : Node.ofTokens (Token.scan gaps).tokens = .ok gapsParsed.nodes := by
    rw [tokens]
    rfl
  have made : ofBody gaps = .ok gapsParsed := ofStream_eq_ok_iff.mpr ⟨nodes, warnings⟩
  exact ⟨made, render_warnings_concern made _ {}⟩

end Parsed

end Stencil
