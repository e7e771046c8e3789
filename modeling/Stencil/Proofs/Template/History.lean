import Stencil.Proofs.Template.Latest
import Stencil.Proofs.Template.Sound

/-! # A store is told by its history

What calls leave of a new store is told from the calls alone: under an identifier is what was last
handed in for it (`handed`), the default of a kind is whoever was last made so, unless that was taken
back (`LastPromoted`), and templates stand in the order in which their identifiers came to stay
(`arrivals`). What one more call adds to each of these is what it does to the store, so they agree
with the store after any run.
-/

namespace Stencil

namespace Store

/-- The template last handed in under an identifier, unless it was taken out since. -/
def handed (calls : List Call) (id : Template.Id) : Option Template :=
  calls.foldl (fun found call => call.leaves id found) none

/-- Of all calls that make a template the default of a kind, the last is for an identifier, and that
was not taken back since. -/
def LastPromoted (calls : List Call) (kind : Kind) (id : Template.Id) : Prop :=
  ∃ before call after, calls = before ++ call :: after ∧ call.Promotes (handed before) kind id ∧
    (∀ middle later rest, after = middle ++ later :: rest →
      ∀ other, ¬ later.Promotes (handed (before ++ call :: middle)) kind other) ∧
    ∀ later ∈ after, ¬ later.Withdraws kind id

/-- The identifier that a call brings in to stay, given the calls before and after it: no template
is there for it, and none is taken out later. -/
def Call.brings? (before after : List Call) : Call → Option Template.Id
  | insert template =>
    if template.Valid ∧ handed before template.id = none ∧ .remove template.id ∉ after then
      some template.id
    else none
  | remove _ | setDefault _ => none

/-- The identifiers that calls bring in to stay, in order, where `before` are earlier calls. -/
def arrivals (before : List Call) : List Call → List Template.Id
  | [] => []
  | call :: after => (call.brings? before after).toList ++ arrivals (before ++ [call]) after

variable {calls : List Call} {kind : Kind} {id : Template.Id}

/-! ## Histories with one more call -/

@[simp] theorem handed_append_singleton (calls : List Call) (call : Call) (id : Template.Id) :
    handed (calls ++ [call]) id = call.leaves id (handed calls id) := by
  simp [handed]

/-- What ends the place of a default is a later promotion for its kind, or a call that takes it back. -/
theorem lastPromoted_iff_latest (calls : List Call) (kind : Kind) (id : Template.Id) :
    LastPromoted calls kind id ↔
      History.Latest (fun before call => call.Promotes (handed before) kind id)
        (fun before later => (∃ other, later.Promotes (handed before) kind other) ∨
          later.Withdraws kind id) calls := by
  constructor
  · rintro ⟨before, call, after, whole, promotes, unmoved, kept⟩
    refine ⟨before, call, after, whole, promotes, ?_⟩
    rintro middle later rest split (⟨other, moved⟩ | withdrawn)
    · exact unmoved middle later rest split other moved
    · exact kept later (by simp [split]) withdrawn
  · rintro ⟨before, call, after, whole, promotes, stays⟩
    refine ⟨before, call, after, whole, promotes, ?_, ?_⟩
    · exact fun middle later rest split other moved =>
        stays middle later rest split (.inl ⟨other, moved⟩)
    · intro later member withdrawn
      obtain ⟨middle, rest, split⟩ := List.append_of_mem member
      exact stays middle later rest split (.inr withdrawn)

theorem lastPromoted_append_singleton (calls : List Call) (call : Call) (kind : Kind)
    (id : Template.Id) :
    LastPromoted (calls ++ [call]) kind id ↔
      call.Promotes (handed calls) kind id ∨
        LastPromoted calls kind id ∧ (∀ other, ¬ call.Promotes (handed calls) kind other) ∧
          ¬ call.Withdraws kind id := by
  simp only [lastPromoted_iff_latest, History.latest_append_singleton, not_or, not_exists]

/-- One more call takes out what it removes from those who came to stay, and may bring in one more. -/
theorem arrivals_append_singleton (before calls : List Call) (call : Call) :
    arrivals before (calls ++ [call]) =
      (arrivals before calls).filter (call ≠ .remove ·) ++
        (call.brings? (before ++ calls) []).toList := by
  induction calls generalizing before with
  | nil => simp [arrivals]
  | cons first rest ih =>
    have front : (first.brings? before (rest ++ [call])).toList =
        (first.brings? before rest).toList.filter (call ≠ .remove ·) := by
      cases first with
      | insert template => grind [Call.brings?]
      | remove other => rfl
      | setDefault other => rfl
    simp only [List.cons_append, arrivals, ih, front, List.filter_append, List.append_assoc,
      List.nil_append]

/-! ## Runs -/

theorem bare_get?_run (calls : List Call) (id : Template.Id) :
    ((empty.run calls).get? id).map Template.bare = (handed calls id).map Template.bare := by
  induction calls using List.reverseRecOn with
  | nil => rfl
  | append_singleton calls call ih =>
    rw [run_append_singleton, handed_append_singleton, bare_get?_call]
    cases call with
    | insert template => grind [Call.leaves]
    | remove other => grind [Call.leaves]
    | setDefault other => exact ih

/-- Whether a call makes someone the default depends on kinds alone. -/
theorem Call.promotes_congr {found other : Template.Id → Option Template}
    (same : ∀ id, (found id).map Template.bare = (other id).map Template.bare) (call : Call)
    (kind : Kind) (id : Template.Id) :
    call.Promotes found kind id ↔ call.Promotes other kind id := by
  cases call with
  | insert template => rfl
  | remove id => rfl
  | setDefault one => rw [Promotes, Promotes, exists_kind_congr (same id)]

theorem Call.refused_congr {found other : Template.Id → Option Template}
    (same : ∀ id, (found id).map Template.bare = (other id).map Template.bare) (call : Call) :
    call.Refused found ↔ call.Refused other := by
  cases call with
  | insert template => rfl
  | remove id => rfl
  | setDefault id =>
    rw [Refused, Refused, ← Option.map_eq_none_iff, same, Option.map_eq_none_iff]

theorem isDefaultOf_run (calls : List Call) (kind : Kind) (id : Template.Id) :
    (empty.run calls).IsDefaultOf kind id ↔ LastPromoted calls kind id := by
  induction calls using List.reverseRecOn generalizing id with
  | nil =>
    constructor
    · rintro ⟨template, found, -⟩
      cases found
    · rintro ⟨before, call, after, whole, -⟩
      simp at whole
  | append_singleton calls call ih =>
    rw [run_append_singleton, lastPromoted_append_singleton, isDefaultOf_call, ih]
    simp only [call.promotes_congr (bare_get?_run calls)]

theorem get?_run_eq_none_iff :
    (empty.run calls).get? id = none ↔ handed calls id = none := by
  rw [← Option.map_eq_none_iff (f := Template.bare), bare_get?_run, Option.map_eq_none_iff]

theorem mem_ids_run : id ∈ (empty.run calls).ids ↔ handed calls id ≠ none := by
  rw [mem_ids_iff, ← Option.ne_none_iff_exists', Ne, get?_run_eq_none_iff]

theorem ids_run (calls : List Call) : (empty.run calls).ids = arrivals [] calls := by
  induction calls using List.reverseRecOn with
  | nil => rfl
  | append_singleton calls call ih =>
    rw [run_append_singleton, ids_call, arrivals_append_singleton, ← ih]
    cases call with
    | insert template =>
      have new : template.id ∉ (empty.run calls).ids ↔ handed calls template.id = none := by
        rw [mem_ids_run, not_not]
      by_cases valid : template.Valid <;> by_cases known : handed calls template.id = none <;>
        simp [Call.order, Call.brings?, new, valid, known]
    | remove other => simp [Call.order, Call.brings?, eq_comm]
    | setDefault other => simp [Call.order, Call.brings?]

/-- Who was promoted last is stored as it was handed in, and is the default. -/
theorem exists_of_lastPromoted (promoted : LastPromoted calls kind id) :
    ∃ template, handed calls id = some template ∧
      (empty.run calls).get? id = some { template with isDefault := true } ∧
      (empty.run calls).default? kind = some { template with isDefault := true } := by
  obtain ⟨template, found, same, flagged⟩ := (isDefaultOf_run calls kind id).mpr promoted
  have told := bare_get?_run calls id
  rw [found] at told
  obtain ⟨given, last, bare⟩ := Option.map_eq_some_iff.mp told.symm
  have whole : template = { given with isDefault := true } := by
    rw [Template.eq_of_bare_eq bare.symm, flagged]
  have own : template.id = id := (sound_empty.run calls).own_id id template found
  have picked : (empty.run calls).default? kind = some template :=
    (sound_empty.run calls).default?_eq_some_iff.mpr ⟨own.symm ▸ found, same, flagged⟩
  exact ⟨given, last, whole ▸ found, whole ▸ picked⟩

theorem default?_run_eq_none (nobody : ∀ id, ¬ LastPromoted calls kind id) :
    (empty.run calls).default? kind = none := by
  refine Option.eq_none_iff_forall_ne_some.mpr fun template picked => ?_
  obtain ⟨found, same, flagged⟩ := (sound_empty.run calls).default?_eq_some_iff.mp picked
  have promoted := (isDefaultOf_run calls kind template.id).mp ⟨template, found, same, flagged⟩
  exact nobody template.id promoted

/-- A new store after any calls. The default of a kind is the template last promoted for it, if that
was not taken back since, and there is none in every other case. A call that fails leaves everything
as it was, and just those calls fail that hand in a body which does not parse or ask for a template
that is not there. The templates are those last handed in, and those of a kind are listed in the
order in which they came to stay. -/
theorem run_told (calls : List Call) :
    (∀ kind id, LastPromoted calls kind id →
      ∃ template, handed calls id = some template ∧
        (empty.run calls).get? id = some { template with isDefault := true } ∧
        (empty.run calls).default? kind = some { template with isDefault := true }) ∧
    (∀ kind, (∀ id, ¬ LastPromoted calls kind id) → (empty.run calls).default? kind = none) ∧
    (∀ call problem, ((empty.run calls).call call).1 = .error problem →
      ((empty.run calls).call call).2 = empty.run calls) ∧
    (∀ call, (∃ problem, ((empty.run calls).call call).1 = .error problem) ↔
      call.Refused (handed calls)) ∧
    (∀ id, ((empty.run calls).get? id).map Template.bare = (handed calls id).map Template.bare) ∧
    ∀ kind, (empty.run calls).ofKind kind =
      ((arrivals [] calls).filterMap (empty.run calls).get?).filter (·.kind = kind) := by
  refine ⟨fun kind id => exists_of_lastPromoted, fun kind => default?_run_eq_none,
    fun call problem => call.harmless_edit _ problem, fun call => ?_, bare_get?_run calls, fun kind => ?_⟩
  · rw [call_error_iff, Call.refused_congr (bare_get?_run calls)]
  · rw [← ids_run, (sound_empty.run calls).filterMap_get?_ids, ofKind]

-- Whoever lost the place of the default does not get it back.
example : (empty.run [.insert { id := ⟨1⟩, kind := .receipt, body := "Paid", isDefault := true },
    .insert { id := ⟨2⟩, kind := .receipt, body := "Received", isDefault := true },
    .remove ⟨2⟩]).default? .receipt = none := by decide +kernel

end Store

end Stencil
