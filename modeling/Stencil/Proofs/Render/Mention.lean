import Stencil.Proofs.Entries
import Stencil.Proofs.Render.Meaning

/-! # Data that a template does not mention

A template mentions the keys that its paths begin with. A key that it does not mention may be added
to its data, or bound to another value there: the two scopes stay alike through all loops, so each
node means the same in both but for what is suggested in its warnings (`alike_meaningAll`). Which
warnings repeat each other does depend on what they suggest, so repeats are left out once more after
the suggestions are.
-/

namespace Stencil

/-- A warning without what it suggests. -/
def Warning.unadvised : Warning → Warning
  | unresolved path place loops _ => unresolved path place loops []
  | warning => warning

/-- The path in a directive. -/
def Node.path? : Node → Option String
  | text _ => none
  | value path _ => some path
  | loop collection _ _ => some collection

/-- No path in a node begins with a key. -/
def Node.Spares (key : String) (node : Node) : Prop :=
  ∀ path, node.path? = some path → (Text.segments path).head? ≠ some key

/-- No path in a template begins with a key. -/
def Parsed.Spares (key : String) (parsed : Parsed) : Prop :=
  ∀ visited ∈ parsed.walk, visited.2.Spares key

/-- Two scopes with the same items, where paths lead to the same data unless they begin with a
key. -/
structure Scope.Alike (key : String) (a b : Scope) : Prop where
  items : a.items = b.items
  root : ∀ first rest, first ≠ key → a.root.lookup? (first :: rest) = b.root.lookup? (first :: rest)

namespace Scope.Alike

variable {key : String} {a b : Scope}

theorem enter (alike : a.Alike key b) (item : Item) : (a.enter item).Alike key (b.enter item) where
  items := congrArg (item :: ·) alike.items
  root := alike.root

theorem collections (alike : a.Alike key b) : a.collections = b.collections := by
  rw [Scope.collections, Scope.collections, alike.items]

theorem innermost? (alike : a.Alike key b) {path : String}
    (spared : (Text.segments path).head? ≠ some key) : a.innermost? path = b.innermost? path := by
  have some : Text.segments path ≠ [] := by simp [Text.segments]
  obtain ⟨first, rest, split⟩ := List.exists_cons_of_ne_nil some
  have differ : first ≠ key := by
    rintro rfl
    exact spared (by rw [split]; rfl)
  rw [Scope.innermost?, Scope.innermost?, frames, frames, List.findSome?_append,
    List.findSome?_append, alike.items, split]
  simp only [List.findSome?_cons, alike.root first rest differ]

end Scope.Alike

theorem Scope.alike_put (key : String) (item : Value) (entries : List (String × Value)) :
    (Scope.ofData ((Value.map entries).put key item)).Alike key (.ofData (.map entries)) where
  items := rfl
  root first rest differ := by
    simp only [ofData, Value.put, Value.lookup?, Value.get?, lookup_putEntry, if_neg differ]

/-- Two meanings with the same text, and the same warnings but for what they suggest. -/
structure Meaning.Alike (a b : Meaning) : Prop where
  text : a.text = b.text
  warnings : a.warnings.map Warning.unadvised = b.warnings.map Warning.unadvised

namespace Meaning.Alike

theorem refl (a : Meaning) : a.Alike a := ⟨rfl, rfl⟩

theorem append {a b c d : Meaning} (first : a.Alike b) (second : c.Alike d) :
    (a.append c).Alike (b.append d) where
  text := by simp only [Meaning.append, first.text, second.text]
  warnings := by simp only [Meaning.append, List.map_append, first.warnings, second.warnings]

theorem concat {α : Type} (items : List α) {one other : α → Meaning}
    (each : ∀ item, (one item).Alike (other item)) :
    (Meaning.concat (items.map one)).Alike (.concat (items.map other)) := by
  induction items with
  | nil => exact refl _
  | cons item rest ih => exact (each item).append ih

end Meaning.Alike

namespace Node

variable {key : String}

mutual

/-- A node that spares a key means the same in scopes that differ in it. -/
theorem alike_meaning (options : Options) (loops : List String) {a b : Scope}
    (alike : a.Alike key b) : (node : Node) → (∀ visited ∈ node.walk loops, visited.2.Spares key) →
    (node.meaning options a).Alike (node.meaning options b)
  | text words => fun _ => .refl _
  | value path position => by
    intro spares
    have same := alike.innermost? (spares _ (List.mem_singleton_self _) path rfl)
    rw [meaning, meaning, Meaning.ofValue, Meaning.ofValue, same, alike.collections]
    cases b.innermost? path with
    | some found => exact .refl _
    | none => exact ⟨rfl, rfl⟩
  | loop collection position body => by
    intro spares
    rw [walk] at spares
    obtain ⟨here, inside⟩ := List.forall_mem_cons.mp spares
    rw [meaning, meaning, alike.innermost? (here collection rfl), alike.collections]
    cases b.innermost? collection with
    | none => exact .refl _
    | some found =>
      cases found with
      | list items =>
        exact .concat items fun item => alike_meaningAll options _ (alike.enter _) body inside
      | _ => exact .refl _

/-- Nodes that spare a key mean the same in scopes that differ in it. -/
theorem alike_meaningAll (options : Options) (loops : List String) {a b : Scope}
    (alike : a.Alike key b) : (nodes : List Node) →
    (∀ visited ∈ walkAll loops nodes, visited.2.Spares key) →
    (meaningAll options a nodes).Alike (meaningAll options b nodes)
  | [] => fun _ => .refl _
  | node :: rest => by
    intro spares
    rw [walkAll] at spares
    obtain ⟨here, later⟩ := List.forall_mem_append.mp spares
    exact (alike_meaning options loops alike node here).append
      (alike_meaningAll options loops alike rest later)

end

end Node

namespace Parsed

/-- What a template does not mention does not show. Under data that differs in a key with which no
path of the template begins, its output is the same, and so are its warnings, once what they suggest
and then repeats are left out. -/
theorem render_put_of_spares (parsed : Parsed) (entries : List (String × Value)) (options : Options)
    {key : String} (spares : parsed.Spares key) (item : Value) :
    (parsed.render ((Value.map entries).put key item) options).output =
      (parsed.render (.map entries) options).output ∧
    ((parsed.render ((Value.map entries).put key item) options).warnings.map
        Warning.unadvised).eraseDups =
      ((parsed.render (.map entries) options).warnings.map Warning.unadvised).eraseDups := by
  have alike := Node.alike_meaningAll options [] (Scope.alike_put key item entries) parsed.nodes spares
  rw [render_eq, render_eq]
  refine ⟨alike.text, ?_⟩
  rw [eraseDups_map_eraseDups, eraseDups_map_eraseDups, List.map_append, List.map_append,
    alike.warnings]

/-- A template that misspells a name inside and outside a loop. -/
def misspelt : Parsed :=
  ⟨[.loop "jobs" .start [.text "- ", .value "titel" .start], .value "nmae" .start], []⟩

/-- A key near a misspelt name may only be suggested. -/
theorem render_put_of_spares_misspelt :
    misspelt.Spares "nme" ∧
      let data : Value := .map [("name", .string "Ann"), ("jobs", .list [.map [("title", .null)]])]
      (misspelt.render (data.put "nme" .null) {}).output = (misspelt.render data {}).output ∧
      ((misspelt.render (data.put "nme" .null) {}).warnings.map Warning.unadvised).eraseDups =
        ((misspelt.render data {}).warnings.map Warning.unadvised).eraseDups := by
  have spares : misspelt.Spares "nme" := by
    intro visited member path found
    simp only [walk, misspelt, Node.walkAll, Node.walk, List.nil_append, List.cons_append,
      List.mem_cons, List.not_mem_nil, or_false] at member
    rcases member with rfl | rfl | rfl | rfl <;> cases found <;> decide
  exact ⟨spares, render_put_of_spares misspelt _ {} spares .null⟩

end Parsed

end Stencil
