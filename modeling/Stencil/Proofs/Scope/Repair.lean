import Mathlib.Data.List.Basic
import Stencil.Proofs.Entries
import Stencil.Proofs.Scope.Ranking

/-! # Which suggestions resolve

A suggestion for a path that does not resolve replaces the first segment that cannot be followed by a
name that can, and takes over the segments behind it unchecked. So it resolves up to the name it puts
in, and altogether if the rest of the path can be followed from there: always if only the last segment
is wrong, but not if a segment behind the first wrong one is wrong as well. Names with dots are left
out of account, for put into a path they would be more than one segment.
-/

namespace Stencil

namespace Text

/-- Whether a name holds no dot, so that it is a single segment of a path. -/
def isUndotted (name : String) : Bool := !name.toList.contains '.'

theorem notMem_of_mem_splitOn {chars part : List Char} (member : part ∈ chars.splitOn '.') :
    '.' ∉ part := by
  induction chars generalizing part with
  | nil => simp_all
  | cons c rest ih =>
    rw [List.splitOn_cons_eq_if_modifyHead] at member
    split at member
    · rcases List.mem_cons.mp member with rfl | later
      · exact List.not_mem_nil
      · exact ih later
    · next other =>
      obtain ⟨first, more, split⟩ := List.exists_cons_of_ne_nil (List.splitOn_ne_nil '.' rest)
      rw [split, List.modifyHead_cons] at member
      rcases List.mem_cons.mp member with rfl | later
      · have solid : c ≠ '.' := by simpa using other
        have free : '.' ∉ first := ih (by simp [split])
        simp [solid.symm, free]
      · exact ih (by simp [split, later])

theorem isUndotted_of_mem_segments {path part : String} (member : part ∈ segments path) :
    isUndotted part := by
  obtain ⟨chars, inside, rfl⟩ := List.mem_map.mp member
  simpa [isUndotted] using notMem_of_mem_splitOn inside

/-- Names without dots are the segments of the path that they make. -/
theorem segments_joinDots {parts : List String} (some : parts ≠ [])
    (undotted : ∀ part ∈ parts, isUndotted part) : segments (joinDots parts) = parts := by
  have solid : ∀ chars ∈ parts.map String.toList, '.' ∉ chars := by
    intro chars member
    obtain ⟨part, inside, rfl⟩ := List.mem_map.mp member
    simpa [isUndotted] using undotted part inside
  have dot : ".".toList = ['.'] := rfl
  rw [segments, joinDots, String.toList_intercalate, dot,
    List.splitOn_intercalate '.' solid (by simpa using some)]
  simp

end Text

namespace Value

mutual

/-- Whether no key of a map holds a dot, at any depth of a value. -/
def isUndotted : Value → Bool
  | list items => areUndotted items
  | map entries => entriesUndotted entries
  | _ => true

/-- Whether no key in any of some values holds a dot. -/
def areUndotted : List Value → Bool
  | [] => true
  | item :: rest => item.isUndotted && areUndotted rest

/-- Whether no key of some entries, or in any of their values, holds a dot. -/
def entriesUndotted : List (String × Value) → Bool
  | [] => true
  | (key, item) :: rest => Text.isUndotted key && item.isUndotted && entriesUndotted rest

end

theorem areUndotted_iff (items : List Value) :
    areUndotted items = true ↔ ∀ item ∈ items, item.isUndotted := by
  induction items with
  | nil => simp [areUndotted]
  | cons item rest ih => simp [areUndotted, ih]

theorem entriesUndotted_iff (entries : List (String × Value)) :
    entriesUndotted entries = true ↔
      ∀ entry ∈ entries, Text.isUndotted entry.1 ∧ entry.2.isUndotted := by
  induction entries with
  | nil => simp [entriesUndotted]
  | cons entry rest ih =>
    obtain ⟨key, item⟩ := entry
    simp only [entriesUndotted, Bool.and_eq_true, ih, List.forall_mem_cons]

theorem isUndotted_of_mem_keys {value : Value} (undotted : value.isUndotted) {key : String}
    (member : key ∈ value.keys?.getD []) : Text.isUndotted key := by
  cases value with
  | map entries =>
    obtain ⟨entry, held, rfl⟩ := List.mem_map.mp member
    exact ((entriesUndotted_iff entries).mp undotted entry held).1
  | _ => cases member

theorem isUndotted_get? {value item : Value} {key : String} (undotted : value.isUndotted)
    (found : value.get? key = some item) : item.isUndotted := by
  cases value with
  | map entries =>
    exact ((entriesUndotted_iff entries).mp undotted (key, item) (mem_of_lookup found)).2
  | list items =>
    obtain ⟨index, -, there⟩ := Option.bind_eq_some_iff.mp found
    exact (areUndotted_iff items).mp undotted item (List.mem_of_getElem? there)
  | _ => cases found

theorem isUndotted_lookup? {value found : Value} {path : List String} (undotted : value.isUndotted)
    (leads : value.lookup? path = some found) : found.isUndotted :=
  of_lookup? (fun _ _ _ => isUndotted_get?) undotted leads

end Value

namespace Scope

/-- Whether no name of an item holds a dot, nor any key in the data. -/
def isUndotted (scope : Scope) : Bool :=
  scope.root.isUndotted &&
    scope.items.all fun item => Text.isUndotted item.name && item.value.isUndotted

variable {scope : Scope}

/-- What a place holds is part of the data, or of an item. -/
theorem exists_lookup?_of_mem_places {place : List String → Option Value}
    (member : place ∈ scope.places) {path : List String} {found : Value}
    (here : place path = some found) :
    ∃ source rest, (source = scope.root ∨ ∃ item ∈ scope.items, source = item.value) ∧
      source.lookup? rest = some found := by
  simp only [places, List.mem_append, List.mem_flatMap, List.mem_cons, List.not_mem_nil,
    or_false] at member
  rcases member with ⟨item, held, rfl | rfl⟩ | rfl
  · cases path with
    | nil => cases here
    | cons first rest =>
      obtain ⟨-, there⟩ := Option.ite_none_right_eq_some.mp here
      exact ⟨item.value, rest, .inr ⟨item, held, rfl⟩, there⟩
  · exact ⟨item.value, path, .inr ⟨item, held, rfl⟩, here⟩
  · exact ⟨scope.root, path, .inl rfl, here⟩

theorem isUndotted_resolveSegments? (undotted : scope.isUndotted) {path : List String}
    {found : Value} (resolved : scope.resolveSegments? path = some found) : found.isUndotted := by
  rw [isUndotted, Bool.and_eq_true, List.all_eq_true] at undotted
  rw [resolveSegments?_eq_findSome?] at resolved
  obtain ⟨place, inside, here⟩ := List.exists_of_findSome?_eq_some resolved
  obtain ⟨source, rest, among, leads⟩ := exists_lookup?_of_mem_places inside here
  refine Value.isUndotted_lookup? ?_ leads
  rcases among with rfl | ⟨item, held, rfl⟩
  · exact undotted.1
  · exact (Bool.and_eq_true_iff.mp (undotted.2 item held)).2

theorem isSome_resolveSegments?_of_mem_names {name : String} (member : name ∈ scope.names) :
    (scope.resolveSegments? [name]).isSome := by
  have keyed {value : Value} (key : name ∈ value.keys?.getD []) : (value.lookup? [name]).isSome := by
    obtain ⟨found, here⟩ := Value.exists_get?_of_mem_keys key
    rw [Value.lookup?_singleton, here, Option.isSome_some]
  rw [resolveSegments?_eq_findSome?, List.findSome?_isSome_iff]
  rcases mem_names_iff.mp member with ⟨item, held, rfl | key⟩ | key
  · exact ⟨item.named?, named?_mem_places held, by simp [Item.named?, Value.lookup?]⟩
  · exact ⟨item.value.lookup?, lookup?_mem_places held, keyed key⟩
  · exact ⟨scope.root.lookup?, scope.root_mem_places, keyed key⟩

/-- Every name that is available behind a beginning of a path leads somewhere from there. -/
theorem exists_resolveSegments?_of_mem_available {front : List String} {name : String}
    (member : name ∈ scope.available front) :
    ∃ found, scope.resolveSegments? (front ++ [name]) = some found := by
  rw [available] at member
  split at member
  · next start =>
    rw [start, List.nil_append]
    exact Option.isSome_iff_exists.mp (isSome_resolveSegments?_of_mem_names member)
  · next some =>
    cases here : scope.resolveSegments? front with
    | none => simp [here] at member
    | some parent =>
      rw [here, Option.bind_some] at member
      obtain ⟨found, there⟩ := Value.exists_get?_of_mem_keys member
      rw [← Value.lookup?_singleton] at there
      exact ⟨found, resolveSegments?_append some here there⟩

theorem isUndotted_of_mem_available (undotted : scope.isUndotted) {front : List String}
    {name : String} (member : name ∈ scope.available front) : Text.isUndotted name := by
  rw [available] at member
  split at member
  · rw [isUndotted, Bool.and_eq_true, List.all_eq_true] at undotted
    rcases mem_names_iff.mp member with ⟨item, held, rfl | key⟩ | key
    · exact (Bool.and_eq_true_iff.mp (undotted.2 item held)).1
    · exact Value.isUndotted_of_mem_keys (Bool.and_eq_true_iff.mp (undotted.2 item held)).2 key
    · exact Value.isUndotted_of_mem_keys undotted.1 key
  · cases here : scope.resolveSegments? front with
    | none => simp [here] at member
    | some parent =>
      rw [here, Option.bind_some] at member
      exact Value.isUndotted_of_mem_keys (isUndotted_resolveSegments? undotted here) member

/-- Suggestions for a path that does not resolve. All of them replace the same segment, the first that
cannot be followed, by a name that can, and keep the segments behind it. If these lead to something
from what the name leads to, the suggestion resolves to that, as it always does if there are none.
Exactly if they can be followed at least in some place where the name leads somewhere, the suggestion
resolves at all. -/
theorem suggest_repairs {path : String} (undotted : scope.isUndotted)
    (missing : scope.resolve? path = none) :
    ∃ front wrong rest, Text.segments path = front ++ wrong :: rest ∧
      (front ≠ [] → (scope.resolveSegments? front).isSome) ∧
      scope.resolveSegments? (front ++ [wrong]) = none ∧
      ∀ suggestion ∈ scope.suggest path, ∃ name found,
        Text.segments suggestion = front ++ name :: rest ∧
        scope.resolveSegments? (front ++ [name]) = some found ∧
        (∀ value, found.lookup? rest = some value → scope.resolve? suggestion = some value) ∧
        ((scope.resolve? suggestion).isSome ↔ ∃ place ∈ scope.places, ∃ found,
          place (front ++ [name]) = some found ∧ (found.lookup? rest).isSome) := by
  obtain ⟨front, wrong, rest, split, resolved, stuck, suggested⟩ := exists_suggest missing
  refine ⟨front, wrong, rest, split, resolved, stuck, fun suggestion member => ?_⟩
  rw [suggested] at member
  obtain ⟨name, offered, rfl⟩ := List.mem_map.mp member
  have known := Suggestion.mem_of_mem_suggest offered
  obtain ⟨found, here⟩ := exists_resolveSegments?_of_mem_available known
  have whole : Text.segments (Text.joinDots (front ++ name :: rest)) = front ++ name :: rest := by
    refine Text.segments_joinDots (by simp) fun part inside => ?_
    have kept (among : part ∈ Text.segments path) := Text.isUndotted_of_mem_segments among
    rw [split] at kept
    rcases List.mem_append.mp inside with before | later
    · exact kept (List.mem_append_left _ before)
    · rcases List.mem_cons.mp later with rfl | behind
      · exact isUndotted_of_mem_available undotted known
      · exact kept (List.mem_append_right _ (List.mem_cons_of_mem _ behind))
  have repaired : scope.resolve? (Text.joinDots (front ++ name :: rest)) =
      scope.resolveSegments? ((front ++ [name]) ++ rest) := by
    rw [resolve?, whole, List.append_assoc, List.singleton_append]
  have some : front ++ [name] ≠ [] := by simp
  refine ⟨name, found, whole, here, fun value there => ?_, ?_⟩
  · rw [repaired, resolveSegments?_append some here there]
  · rw [repaired, isSome_resolveSegments?_append_iff some]

/-- Data in which a customer has a name. -/
def customer : Value := .map [("customer", .map [("name", .string "Ann")])]

/-- In a loop over projects, the first segment of a path is misspelt. -/
theorem suggest_repairs_customer :
    let scope := (ofData customer).enter ⟨"projects", "project", .map [("title", .string "Kitchen")]⟩
    scope.isUndotted = true ∧ scope.resolve? "custmer.name" = none ∧
      scope.suggest "custmer.name" = ["customer.name"] ∧
      ∃ front wrong rest, Text.segments "custmer.name" = front ++ wrong :: rest ∧
        (front ≠ [] → (scope.resolveSegments? front).isSome) ∧
        scope.resolveSegments? (front ++ [wrong]) = none ∧
        ∀ suggestion ∈ scope.suggest "custmer.name", ∃ name found,
          Text.segments suggestion = front ++ name :: rest ∧
          scope.resolveSegments? (front ++ [name]) = some found ∧
          (∀ value, found.lookup? rest = some value → scope.resolve? suggestion = some value) ∧
          ((scope.resolve? suggestion).isSome ↔ ∃ place ∈ scope.places, ∃ found,
            place (front ++ [name]) = some found ∧ (found.lookup? rest).isSome) := by
  intro scope
  have undotted : scope.isUndotted = true := by decide +kernel
  have missing : scope.resolve? "custmer.name" = none := by decide +kernel
  exact ⟨undotted, missing, by decide +kernel, suggest_repairs undotted missing⟩

/-- Not every suggestion resolves: a second wrong segment is taken over as it is. -/
theorem not_forall_suggest_resolves :
    ¬ ∀ (scope : Scope) (path : String), scope.isUndotted → scope.resolve? path = none →
      ∀ suggestion ∈ scope.suggest path, (scope.resolve? suggestion).isSome := by
  intro claimed
  have resolved := claimed (ofData customer) "custmer.nmae" (by decide +kernel) (by decide +kernel)
    "customer.nmae" (by decide +kernel)
  have missing : (ofData customer).resolve? "customer.nmae" = none := by decide +kernel
  rw [missing] at resolved
  cases resolved

end Scope

end Stencil
