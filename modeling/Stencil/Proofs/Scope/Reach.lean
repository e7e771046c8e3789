import Mathlib.Logic.ExistsUnique
import Stencil.Proofs.Scope.Resolution

/-! # How far a path can be followed

An item is one frame of a scope though it is looked through twice, and the data is the outermost one.
The frame that has a path has each beginning of it, but a frame further in may have the beginning as
well and hide it. So the beginnings that resolve are those up to one length (`Reaches`), behind which
suggestions are made; and from the value there nothing leads out of its frame (`frameIdx_append`).
-/

namespace Stencil

namespace Scope

/-- The number of frames that a path passes before it comes to one that has it. -/
def frameIdx (scope : Scope) (segments : List String) : Nat :=
  scope.frames.findIdx fun frame => (frame segments).isSome

/-- Whether exactly the beginnings of a path with at most `length` segments resolve, and this is not
the whole path. -/
def Reaches (scope : Scope) (segments : List String) (length : Nat) : Prop :=
  length < segments.length ∧ ∀ count ≤ segments.length, 0 < count →
    ((scope.resolveSegments? (segments.take count)).isSome ↔ count ≤ length)

instance (scope : Scope) (segments : List String) (length : Nat) :
    Decidable (scope.Reaches segments length) :=
  inferInstanceAs (Decidable (_ ∧ _))

variable {scope : Scope} {segments front back : List String} {frame : List String → Option Value}

/-! ## The frame of a path -/

theorem mem_frames_iff :
    frame ∈ scope.frames ↔ (∃ item ∈ scope.items, item.resolve? = frame) ∨
      frame = scope.root.lookup? := by
  rw [frames, List.mem_append, List.mem_map, List.mem_singleton]

/-- A path resolves in the frame that it comes to. -/
theorem resolveSegments?_eq_frame (scope : Scope) (segments : List String) :
    scope.resolveSegments? segments =
      scope.frames[scope.frameIdx segments]?.bind (· segments) := by
  rw [resolveSegments?_eq_findSome?_frames, frameIdx]
  induction scope.frames with
  | nil => rfl
  | cons frame rest ih =>
    cases here : frame segments with
    | some value => simp [List.findIdx_cons, here]
    | none => simpa [List.findSome?_cons, List.findIdx_cons, here] using ih

/-- A frame that has a path has each beginning of it. -/
theorem isSome_frame_of_append (member : frame ∈ scope.frames) (some : front ≠ [])
    (resolved : (frame (front ++ back)).isSome) : (frame front).isSome := by
  rcases mem_frames_iff.mp member with ⟨item, held, rfl⟩ | rfl
  · rw [item.resolve?_eq_or, Option.isSome_or, Bool.or_eq_true] at resolved ⊢
    refine resolved.imp (fun named => ?_) Value.isSome_lookup?_of_append
    rw [follows_of_mem_places (named?_mem_places held) some] at named
    exact Option.isSome_of_isSome_bind named
  · exact Value.isSome_lookup?_of_append resolved

/-- What can be followed on from what a frame has at a path, this frame has as well. -/
theorem frame_append {value found : Value} (member : frame ∈ scope.frames) (some : front ≠ [])
    (here : frame front = .some value) (there : value.lookup? back = .some found) :
    frame (front ++ back) = .some found := by
  rcases mem_frames_iff.mp member with ⟨item, held, rfl⟩ | rfl
  · rw [item.resolve?_eq_or] at here ⊢
    rw [follows_of_mem_places (named?_mem_places held) some, Value.lookup?_append]
    -- Behind its name an item has the longer path only if it has the shorter one there.
    cases named : item.named? front with
    | some known =>
      rw [named, Option.some_or] at here
      cases here
      rw [Option.bind_some, there, Option.some_or]
    | none =>
      rw [named, Option.none_or] at here
      rw [Option.bind_none, Option.none_or, here, Option.bind_some, there]
  · rw [Value.lookup?_append, here, Option.bind_some, there]

/-- A path lies no further in than its beginning. -/
theorem frameIdx_le_append (some : front ≠ []) (back : List String) :
    scope.frameIdx front ≤ scope.frameIdx (front ++ back) :=
  List.findIdx_le_findIdx fun _ member => isSome_frame_of_append member some

/-- What can be followed on from the value of a path lies in the frame of this value. -/
theorem frameIdx_append {value found : Value} (some : front ≠ [])
    (here : scope.resolveSegments? front = .some value) (there : value.lookup? back = .some found) :
    scope.frameIdx (front ++ back) = scope.frameIdx front := by
  refine Nat.le_antisymm (Nat.le_of_not_lt fun further => ?_) (frameIdx_le_append some back)
  rw [resolveSegments?_eq_frame] at here
  obtain ⟨frame, place, known⟩ := Option.bind_eq_some_iff.mp here
  have followed : frame (front ++ back) = .some found :=
    frame_append (List.mem_of_getElem? place) some known there
  have missed := List.not_of_lt_findIdx further
  obtain ⟨bound, rfl⟩ := List.getElem?_eq_some_iff.mp place
  rw [followed] at missed
  cases missed

/-- A key of a map leads to the entry of that map. -/
theorem exists_resolveSegments?_key {entries : List (String × Value)} {key : String}
    (some : front ≠ []) (here : scope.resolveSegments? front = .some (.map entries))
    (member : key ∈ entries.map (·.1)) :
    ∃ item, entries.lookup key = .some item ∧
      scope.resolveSegments? (front ++ [key]) = .some item ∧
      scope.frameIdx (front ++ [key]) = scope.frameIdx front := by
  have offered : key ∈ (Value.map entries).keys?.getD [] := member
  obtain ⟨item, entry⟩ := Value.exists_get?_of_mem_keys offered
  have there : (Value.map entries).lookup? [key] = .some item := by
    rw [Value.lookup?_singleton, entry]
  exact ⟨item, entry, resolveSegments?_append some here there, frameIdx_append some here there⟩

/-! ## The length up to which a path resolves -/

namespace Reaches

variable {length other : Nat}

theorem le (first : scope.Reaches segments length) (second : scope.Reaches segments other) :
    length ≤ other := by
  refine Nat.le_of_not_lt fun beyond => ?_
  have bound : other + 1 ≤ segments.length := second.1
  have resolved := (first.2 (other + 1) bound other.succ_pos).mpr beyond
  exact absurd ((second.2 (other + 1) bound other.succ_pos).mp resolved) other.not_succ_le_self

theorem unique (first : scope.Reaches segments length) (second : scope.Reaches segments other) :
    length = other :=
  Nat.le_antisymm (first.le second) (second.le first)

/-- If a beginning resolves, but not with one more segment, then all shorter ones do and no longer
one. -/
theorem of_split {wrong : String} {rest : List String}
    (resolved : front ≠ [] → (scope.resolveSegments? front).isSome)
    (stuck : scope.resolveSegments? (front ++ [wrong]) = none) :
    scope.Reaches (front ++ wrong :: rest) front.length := by
  refine ⟨by simp, fun count _ positive => ⟨fun found => ?_, fun inside => ?_⟩⟩
  · refine Nat.le_of_not_lt fun beyond => ?_
    obtain ⟨more, rfl⟩ := Nat.exists_eq_add_of_lt beyond
    -- A longer beginning holds the segment behind which nothing resolves.
    have longer : (front ++ wrong :: rest).take (front.length + more + 1) =
        (front ++ [wrong]) ++ rest.take more := by
      rw [Nat.add_assoc, List.take_length_add_append, List.take_succ_cons, List.append_assoc,
        List.singleton_append]
    rw [longer] at found
    have known := isSome_resolveSegments?_of_append (by simp) found
    rw [stuck] at known
    cases known
  · have some : front ≠ [] := List.ne_nil_of_length_pos (Nat.lt_of_lt_of_le positive inside)
    have shorter : front.take count ≠ [] := by
      simp only [ne_eq, List.take_eq_nil_iff, some, or_false]
      exact Nat.ne_of_gt positive
    have whole := resolved some
    rw [← List.take_append_drop count front] at whole
    rw [List.take_append_of_le_length inside]
    exact isSome_resolveSegments?_of_append shorter whole

end Reaches

/-- A path that does not resolve reaches up to some length, and suggestions replace the segment
behind it. -/
theorem exists_reaches {path : String} (missing : scope.resolve? path = none) :
    ∃ front wrong rest, Text.segments path = front ++ wrong :: rest ∧
      scope.Reaches (Text.segments path) front.length ∧
      (front ≠ [] → (scope.resolveSegments? front).isSome) ∧
      scope.suggest path = (Suggestion.suggest wrong (scope.available front)).map fun name =>
        Text.joinDots (front ++ name :: rest) := by
  obtain ⟨front, wrong, rest, split, resolved, stuck, suggested⟩ := exists_suggest missing
  refine ⟨front, wrong, rest, split, ?_, resolved, suggested⟩
  rw [split]
  exact .of_split resolved stuck

/-- How paths are followed in a scope. If a path resolves, each beginning of it does, in the same
frame or further in. So a path that does not resolve can be followed up to exactly one length, and
suggestions compare the segment there with the names on offer: with those that a path can begin with
if not even the first segment resolves, else with the keys of the value that was reached. Each of
these keys leads to that value's own entry, in the same frame. -/
theorem resolves_up_to_reach (scope : Scope) :
    (∀ front back, front ≠ [] → back ≠ [] → (scope.resolveSegments? (front ++ back)).isSome →
      (scope.resolveSegments? front).isSome ∧
        scope.frameIdx front ≤ scope.frameIdx (front ++ back)) ∧
    ∀ path, scope.resolve? path = none →
      (∃! length, scope.Reaches (Text.segments path) length) ∧
      ∀ length, scope.Reaches (Text.segments path) length →
        ∃ front wrong rest offered, front.length = length ∧
          Text.segments path = front ++ wrong :: rest ∧
          (scope.suggest path = (Suggestion.suggest wrong offered).map fun name =>
            Text.joinDots (front ++ name :: rest)) ∧
          (length = 0 → ∀ name, name ∈ offered ↔
            (∃ item ∈ scope.items, name = item.name ∨ name ∈ item.value.keys?.getD []) ∨
              name ∈ scope.root.keys?.getD []) ∧
          (0 < length → ∃ value, scope.resolveSegments? front = some value ∧
            offered = value.keys?.getD [] ∧
            ∀ entries, value = .map entries → ∀ key ∈ entries.map (·.1), ∃ item,
              entries.lookup key = some item ∧
              scope.resolveSegments? (front ++ [key]) = some item ∧
              scope.frameIdx (front ++ [key]) = scope.frameIdx front) := by
  refine ⟨fun front back some _ resolved => ?_, fun path missing => ?_⟩
  · exact ⟨isSome_resolveSegments?_of_append some resolved, frameIdx_le_append some back⟩
  obtain ⟨front, wrong, rest, split, reached, resolved, suggested⟩ := exists_reaches missing
  refine ⟨⟨front.length, reached, fun other also => also.unique reached⟩, fun length also => ?_⟩
  obtain rfl := also.unique reached
  refine ⟨front, wrong, rest, scope.available front, rfl, split, suggested, ?_, ?_⟩
  · intro empty name
    rw [available, if_pos (List.eq_nil_of_length_eq_zero empty)]
    exact mem_names_iff
  · intro positive
    have some : front ≠ [] := List.ne_nil_of_length_pos positive
    obtain ⟨value, here⟩ := Option.isSome_iff_exists.mp (resolved some)
    refine ⟨value, here, by rw [available, if_neg some, here, Option.bind_some], ?_⟩
    rintro entries rfl key member
    exact exists_resolveSegments?_key some here member

/-- In a loop over projects, the customer of a project hides the one of the data. -/
def shadowing : Scope :=
  (ofData (.map [("customer", .map [("name", .string "Ann")])])).enter
    ⟨"projects", "project", .map [("customer", .map [("phone", .string "555")])]⟩

/-- The name is found in the data, the customer in front of it in the project, and so is the key that
is suggested for a misspelt one. -/
theorem resolves_up_to_reach_shadowing :
    (shadowing.resolveSegments? ["customer", "name"]).isSome ∧
      (shadowing.resolveSegments? ["customer"]).isSome ∧
      shadowing.frameIdx ["customer", "name"] = 1 ∧ shadowing.frameIdx ["customer"] = 0 ∧
      shadowing.resolve? "customer.phnoe" = none ∧
      shadowing.suggest "customer.phnoe" = ["customer.phone"] ∧
      (∀ length, shadowing.Reaches (Text.segments "customer.phnoe") length ↔ length = 1) ∧
      ∃ item, [("phone", Value.string "555")].lookup "phone" = some item ∧
        shadowing.resolveSegments? ["customer", "phone"] = some item ∧
        shadowing.frameIdx ["customer", "phone"] = shadowing.frameIdx ["customer"] := by
  obtain ⟨closed, stops⟩ := resolves_up_to_reach shadowing
  have found : (shadowing.resolveSegments? ["customer", "name"]).isSome := by decide +kernel
  obtain ⟨begun, -⟩ := closed ["customer"] ["name"] (by decide) (by decide) found
  have missing : shadowing.resolve? "customer.phnoe" = none := by decide +kernel
  have reached : shadowing.Reaches (Text.segments "customer.phnoe") 1 := by decide +kernel
  obtain ⟨only, behind⟩ := stops "customer.phnoe" missing
  have one (length) : shadowing.Reaches (Text.segments "customer.phnoe") length ↔ length = 1 :=
    ⟨fun also => only.unique also reached, by rintro rfl; exact reached⟩
  obtain ⟨front, wrong, rest, offered, size, split, -, -, keys⟩ := behind 1 reached
  have first : front = ["customer"] := by
    have cut : (Text.segments "customer.phnoe").take 1 = ["customer"] := by decide +kernel
    rwa [split, ← size, List.take_left] at cut
  subst first
  obtain ⟨value, here, -, entry⟩ := keys Nat.one_pos
  have known : shadowing.resolveSegments? ["customer"] =
      some (.map [("phone", .string "555")]) := by rfl
  rw [known] at here
  cases here
  exact ⟨found, begun, by decide +kernel, by decide +kernel, missing, by decide +kernel, one,
    entry _ rfl "phone" (by decide)⟩

end Scope

end Stencil
