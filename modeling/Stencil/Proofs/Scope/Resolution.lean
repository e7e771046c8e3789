import Stencil.Scope

/-! # How paths resolve

A scope looks for a path in one place behind the other: behind the name of each item, among the keys
of the item, and in the data. In each place a path is followed key by key (`follows_of_mem_places`),
so a scope that resolves a path resolves its beginnings, though perhaps in a place further in, and
goes on in the same place if it can. The search for the longest beginning that resolves stops at the
only one behind which nothing resolves.
-/

namespace Stencil

namespace Value

theorem lookup?_append (value : Value) (front back : List String) :
    value.lookup? (front ++ back) = (value.lookup? front).bind (·.lookup? back) := by
  induction front generalizing value with
  | nil => rfl
  | cons key rest ih => simp only [List.cons_append, lookup?, ih, Option.bind_assoc]

theorem lookup?_singleton (value : Value) (key : String) : value.lookup? [key] = value.get? key := by
  simp [lookup?]

theorem isSome_lookup?_of_append {value : Value} {front back : List String}
    (resolved : (value.lookup? (front ++ back)).isSome) : (value.lookup? front).isSome := by
  rw [lookup?_append] at resolved
  exact Option.isSome_of_isSome_bind resolved

/-- What holds of a value and passes on to whatever is under a key holds of what paths lead to. -/
theorem of_lookup? {Holds : Value → Prop}
    (inherited : ∀ value key item, Holds value → value.get? key = some item → Holds item)
    {value found : Value} {path : List String} (holds : Holds value)
    (leads : value.lookup? path = some found) : Holds found := by
  induction path generalizing value with
  | nil =>
    cases leads
    exact holds
  | cons key rest ih =>
    obtain ⟨item, here, there⟩ := Option.bind_eq_some_iff.mp leads
    exact ih (inherited value key item holds here) there

/-- There is something under every key. -/
theorem exists_get?_of_mem_keys {value : Value} {key : String} (member : key ∈ value.keys?.getD []) :
    ∃ item, value.get? key = some item := by
  cases value with
  | map entries =>
    obtain ⟨entry, held, same⟩ := List.mem_map.mp member
    exact Option.isSome_iff_exists.mp
      (List.lookup_isSome_iff.mpr ⟨entry, held, beq_iff_eq.mpr same.symm⟩)
  | _ => cases member

end Value

namespace Scope

/-- The value at a path that begins with the name of an item. -/
def Item.named? (item : Item) : List String → Option Value
  | [] => none
  | first :: rest => if first = item.name then item.value.lookup? rest else none

/-- An item is looked through twice: behind its name, and among its own keys. -/
theorem Item.resolve?_eq_or (item : Item) (segments : List String) :
    item.resolve? segments = (item.named? segments).or (item.value.lookup? segments) := by
  rw [Option.or_eq_orElse]
  cases segments <;> rfl

/-- The frames of a scope, innermost first: what each item has at a path, and what the data has. -/
def frames (scope : Scope) : List (List String → Option Value) :=
  scope.items.map Item.resolve? ++ [scope.root.lookup?]

/-- A path resolves in the first frame that has it. -/
theorem resolveSegments?_eq_findSome?_frames (scope : Scope) (segments : List String) :
    scope.resolveSegments? segments = scope.frames.findSome? (· segments) := by
  rw [frames, List.findSome?_append, List.findSome?_map, List.findSome?_singleton,
    Option.or_eq_orElse]
  rfl

/-- The places where a scope looks for a path, innermost first: an item has two of them. -/
def places (scope : Scope) : List (List String → Option Value) :=
  scope.items.flatMap (fun item => [item.named?, item.value.lookup?]) ++ [scope.root.lookup?]

variable {scope : Scope} {segments front back : List String}

theorem named?_mem_places {item : Item} (held : item ∈ scope.items) : item.named? ∈ scope.places :=
  List.mem_append_left _ (List.mem_flatMap.mpr ⟨item, held, List.mem_cons_self⟩)

theorem lookup?_mem_places {item : Item} (held : item ∈ scope.items) :
    item.value.lookup? ∈ scope.places :=
  List.mem_append_left _ (List.mem_flatMap.mpr ⟨item, held, List.mem_cons_of_mem _ List.mem_cons_self⟩)

theorem root_mem_places (scope : Scope) : scope.root.lookup? ∈ scope.places :=
  List.mem_append_right _ List.mem_cons_self

theorem findSome?_places (items : List Item) (segments : List String) :
    (items.flatMap fun item => [item.named?, item.value.lookup?]).findSome? (· segments) =
      items.findSome? (·.resolve? segments) := by
  induction items with
  | nil => rfl
  | cons item rest ih =>
    rw [List.flatMap_cons, List.findSome?_append, ih]
    simp only [List.findSome?_cons, item.resolve?_eq_or]
    cases item.named? segments with
    | some value => rfl
    | none => cases item.value.lookup? segments <;> rfl

/-- A path resolves in the first place where it leads somewhere. -/
theorem resolveSegments?_eq_findSome? (scope : Scope) (segments : List String) :
    scope.resolveSegments? segments = scope.places.findSome? (· segments) := by
  rw [places, List.findSome?_append, findSome?_places, List.findSome?_singleton, Option.or_eq_orElse]
  rfl

/-- In each place, a path is followed key by key. -/
theorem follows_of_mem_places {place : List String → Option Value} (member : place ∈ scope.places)
    (some : front ≠ []) (back : List String) :
    place (front ++ back) = (place front).bind (·.lookup? back) := by
  obtain ⟨first, rest, rfl⟩ := List.exists_cons_of_ne_nil some
  simp only [places, List.mem_append, List.mem_flatMap, List.mem_cons, List.not_mem_nil,
    or_false] at member
  rcases member with ⟨item, -, rfl | rfl⟩ | rfl
  · rw [List.cons_append, Item.named?, Item.named?]
    split
    · exact item.value.lookup?_append rest back
    · rfl
  · exact item.value.lookup?_append _ back
  · exact scope.root.lookup?_append _ back

/-- A path resolves exactly if, from what a beginning of it leads to in some place, the rest of it can
be followed. -/
theorem isSome_resolveSegments?_append_iff (some : front ≠ []) (back : List String) :
    (scope.resolveSegments? (front ++ back)).isSome ↔ ∃ place ∈ scope.places, ∃ found,
      place front = .some found ∧ (found.lookup? back).isSome := by
  rw [resolveSegments?_eq_findSome?, List.findSome?_isSome_iff]
  refine exists_congr fun place => and_congr_right fun member => ?_
  rw [follows_of_mem_places member some]
  cases place front <;> simp

theorem isSome_resolveSegments?_of_append (some : front ≠ [])
    (resolved : (scope.resolveSegments? (front ++ back)).isSome) :
    (scope.resolveSegments? front).isSome := by
  obtain ⟨place, member, found, here, -⟩ := (isSome_resolveSegments?_append_iff some back).mp resolved
  rw [resolveSegments?_eq_findSome?, List.findSome?_isSome_iff]
  exact ⟨place, member, by rw [here]; rfl⟩

/-- A path is followed on in the place in which it resolves: no place further in gets in the way, for
its beginning leads nowhere there. -/
theorem resolveSegments?_append {value found : Value} (some : front ≠ [])
    (here : scope.resolveSegments? front = .some value) (there : value.lookup? back = .some found) :
    scope.resolveSegments? (front ++ back) = .some found := by
  rw [resolveSegments?_eq_findSome?, List.findSome?_eq_some_iff] at here ⊢
  obtain ⟨inner, place, outer, whole, known, missed⟩ := here
  refine ⟨inner, place, outer, whole, ?_, fun other member => ?_⟩
  · have inside : place ∈ scope.places := by simp [whole]
    rw [follows_of_mem_places inside some, known, Option.bind_some, there]
  · have inside : other ∈ scope.places := by simp [whole, member]
    rw [follows_of_mem_places inside some, missed other member, Option.bind_none]

/-! ## The longest beginning that resolves -/

/-- The search for a beginning that resolves goes from long to short, so the next longer one does not
resolve. -/
theorem anchor?_eq_some {most length : Nat} {value : Value}
    (found : scope.anchor? segments most = some (length, value)) :
    0 < length ∧ length ≤ most ∧ scope.resolveSegments? (segments.take length) = some value ∧
      (length < most → scope.resolveSegments? (segments.take (length + 1)) = none) := by
  induction most with
  | zero => cases found
  | succ most ih =>
    rw [anchor?] at found
    cases here : scope.resolveSegments? (segments.take (most + 1)) with
    | some known =>
      rw [here] at found
      cases found
      exact ⟨most.succ_pos, Nat.le_refl _, here, fun less => absurd less (Nat.lt_irrefl _)⟩
    | none =>
      rw [here] at found
      obtain ⟨positive, bound, resolved, beyond⟩ := ih found
      refine ⟨positive, Nat.le_succ_of_le bound, resolved, fun _ => ?_⟩
      rcases Nat.lt_or_eq_of_le bound with less | rfl
      · exact beyond less
      · exact here

theorem anchor?_eq_none {most : Nat} (missed : scope.anchor? segments most = none)
    (positive : 0 < most) : scope.resolveSegments? (segments.take 1) = none := by
  induction most with
  | zero => exact absurd positive (Nat.lt_irrefl 0)
  | succ most ih =>
    rw [anchor?] at missed
    cases here : scope.resolveSegments? (segments.take (most + 1)) with
    | some known =>
      rw [here] at missed
      cases missed
    | none =>
      rw [here] at missed
      rcases Nat.eq_zero_or_pos most with rfl | more
      · exact here
      · exact ih missed more

/-- The names that may stand behind a beginning of a path: the keys of the value there, or all names
in scope in front of the first segment. -/
def available (scope : Scope) (front : List String) : List String :=
  if front = [] then scope.names else
    ((scope.resolveSegments? front).bind Value.keys?).getD []

/-- A name that a path can begin with is that of an item, or a key of an item or of the data. -/
theorem mem_names_iff {name : String} :
    name ∈ scope.names ↔ (∃ item ∈ scope.items, name = item.name ∨
      name ∈ item.value.keys?.getD []) ∨ name ∈ scope.root.keys?.getD [] := by
  simp only [names, List.mem_eraseDups, List.mem_append, List.mem_flatMap, List.mem_cons]

/-- Suggestions for a path that does not resolve replace one segment: the one behind the longest
beginning that resolves. -/
theorem exists_suggest {path : String} (missing : scope.resolve? path = none) :
    ∃ front wrong rest, Text.segments path = front ++ wrong :: rest ∧
      (front ≠ [] → (scope.resolveSegments? front).isSome) ∧
      scope.resolveSegments? (front ++ [wrong]) = none ∧
      scope.suggest path = (Suggestion.suggest wrong (scope.available front)).map fun name =>
        Text.joinDots (front ++ name :: rest) := by
  have nonempty : Text.segments path ≠ [] := by simp [Text.segments]
  have whole : scope.resolveSegments? (Text.segments path) = none := missing
  simp only [suggest]
  generalize Text.segments path = segments at nonempty whole ⊢
  cases found : scope.anchor? segments (segments.length - 1) with
  | none =>
    obtain ⟨wrong, rest, rfl⟩ := List.exists_cons_of_ne_nil nonempty
    refine ⟨[], wrong, rest, rfl, fun some => absurd rfl some, ?_, by simp [available]⟩
    cases rest with
    | nil => exact whole
    | cons next rest => exact anchor?_eq_none found (by simp)
  | some anchor =>
    obtain ⟨length, parent⟩ := anchor
    obtain ⟨positive, bound, here, beyond⟩ := anchor?_eq_some found
    have inside : length < segments.length := by omega
    have split : segments = segments.take length ++ segments[length] :: segments.drop (length + 1) := by
      rw [List.getElem_cons_drop, List.take_append_drop]
    have some : segments.take length ≠ [] := by
      simp only [ne_eq, List.take_eq_nil_iff, nonempty, or_false]
      omega
    refine ⟨_, _, _, split, fun _ => by rw [here]; rfl, ?_, ?_⟩
    · rw [List.take_append_getElem inside]
      by_cases less : length < segments.length - 1
      · exact beyond less
      · rwa [List.take_of_length_le (by omega)]
    · rw [available, if_neg some, here, List.drop_eq_getElem_cons inside]
      rfl

end Scope

end Stencil
