import Stencil.Proofs.Entries
import Stencil.Template.Store

/-! # Calls on a store

Three things are to be known of a store: the template under each identifier, who is the default of
each kind, and the order of the identifiers. What a call does to them is said once here
(`bare_get?_call`, `isDefaultOf_call`, `ids_call`), in terms of the call and of the templates it
finds; whatever holds after many calls follows from these three. A call that fails changes nothing
(`Call.harmless_edit`).
-/

namespace Stencil

namespace Template

/-- The body of the template parses. -/
def Valid (template : Template) : Prop := ∃ parsed, Parsed.ofBody template.body = .ok parsed

instance (template : Template) : Decidable template.Valid :=
  match made : Parsed.ofBody template.body with
  | .ok parsed => .isTrue ⟨parsed, made⟩
  | .error fault => .isFalse fun ⟨parsed, other⟩ => by cases made.symm.trans other

/-- The template, whether it is a default or not. -/
def bare (template : Template) : Template := { template with isDefault := false }

/-- Templates that differ at most in the flag of a default. -/
theorem eq_of_bare_eq {one other : Template} (same : one.bare = other.bare) :
    one = { other with isDefault := one.isDefault } := by
  cases one
  cases other
  simpa [bare] using same

theorem id_of_bare_eq {one other : Template} (same : one.bare = other.bare) : one.id = other.id := by
  have ids : one.bare.id = other.bare.id := by rw [same]
  exact ids

theorem valid_of_bare_eq {one other : Template} (same : one.bare = other.bare)
    (valid : one.Valid) : other.Valid := by
  have bodies : one.bare.body = other.bare.body := congrArg body same
  exact valid.imp fun parsed made => (congrArg Parsed.ofBody bodies).symm.trans made

end Template

namespace Store

/-- A call that may change a store. -/
inductive Call where
  | insert (template : Template)
  | remove (id : Template.Id)
  | setDefault (id : Template.Id)
deriving DecidableEq

namespace Call

/-- What a call does. -/
def edit : Call → Edit (Option Template)
  | insert template => .insert template
  | remove id => .remove id
  | setDefault id => do
    Edit.setDefault id
    return none

/-- The template under an identifier behind a call, as it was handed in, if `found` is the one in
front of the call. -/
def leaves (id : Template.Id) (found : Option Template) : Call → Option Template
  | insert template => if template.id = id ∧ template.Valid then some template else found
  | remove other => if other = id then none else found
  | setDefault _ => found

/-- The call makes the template with an identifier the default of a kind, where `found` tells the
templates in front of the call. -/
def Promotes (found : Template.Id → Option Template) (kind : Kind) (id : Template.Id) : Call → Prop
  | insert template => template.id = id ∧ template.Valid ∧ template.kind = kind ∧ template.isDefault
  | remove _ => False
  | setDefault other => other = id ∧ ∃ template, found id = some template ∧ template.kind = kind

/-- Behind the call, the template with an identifier is no longer there as a default of a kind: it is
taken out, or one that is no default of that kind is put in its place. -/
def Withdraws (kind : Kind) (id : Template.Id) : Call → Prop
  | insert template =>
    template.id = id ∧ template.Valid ∧ ¬ (template.kind = kind ∧ template.isDefault)
  | remove other => other = id
  | setDefault _ => False

/-- The call fails, where `found` tells the templates in front of it. -/
def Refused (found : Template.Id → Option Template) : Call → Prop
  | insert template => ¬ template.Valid
  | remove _ => False
  | setDefault id => found id = none

/-- The identifiers in order behind a call, given those in front of it. -/
def order (ids : List Template.Id) : Call → List Template.Id
  | insert template =>
    if template.Valid ∧ template.id ∉ ids then ids ++ [template.id] else ids
  | remove id => ids.filter (· ≠ id)
  | setDefault _ => ids

end Call

/-- What a call answers, and the store behind it. -/
def call (store : Store) (call : Call) : Except Problem (Option Template) × Store :=
  Attempt.on store call.edit

/-- The store behind some calls. -/
def run (store : Store) (calls : List Call) : Store :=
  calls.foldl (fun store call => (store.call call).2) store

@[simp] theorem run_append_singleton (store : Store) (calls : List Call) (call : Call) :
    store.run (calls ++ [call]) = ((store.run calls).call call).2 := by
  simp [run]

/-- The identifiers under which there are templates, in order. -/
def ids (store : Store) : List Template.Id := store.entries.map (·.1)

/-- The template under an identifier is a default of a kind. -/
def IsDefaultOf (store : Store) (kind : Kind) (id : Template.Id) : Prop :=
  ∃ template, store.get? id = some template ∧ template.kind = kind ∧ template.isDefault

variable {store : Store} {id : Template.Id} {template : Template}

theorem mem_of_get? (found : store.get? id = some template) : template ∈ store.templates :=
  List.mem_map_of_mem (mem_of_lookup found)

theorem mem_ids_iff : id ∈ store.ids ↔ ∃ template, store.get? id = some template :=
  mem_keys_iff

/-! ## Parts of calls -/

theorem get?_put (store : Store) (other : Template.Id) (template : Template) (id : Template.Id) :
    (store.put other template).get? id = if other = id then some template else store.get? id := by
  rw [get?, put, lookup_putEntry, get?]
  simp only [@eq_comm _ id]

theorem ids_put (store : Store) (id : Template.Id) (template : Template) :
    (store.put id template).ids = if id ∈ store.ids then store.ids else store.ids ++ [id] :=
  keys_putEntry id template store.entries

theorem get?_drop (store : Store) (other id : Template.Id) :
    (store.drop other).get? id = if other = id then none else store.get? id := by
  rw [get?, drop, lookup_dropEntry, get?]
  simp only [@eq_comm _ id]

theorem ids_drop (store : Store) (id : Template.Id) :
    (store.drop id).ids = store.ids.filter (· ≠ id) :=
  keys_dropEntry id store.entries

theorem get?_update (store : Store) (change : Template.Id → Template → Template)
    (id : Template.Id) : (store.update change).get? id = (store.get? id).map (change id) :=
  lookup_map_snd change store.entries id

theorem ids_update (store : Store) (change : Template.Id → Template → Template) :
    (store.update change).ids = store.ids := by
  simp [update, ids]

theorem get?_clearDefault (store : Store) (kind : Kind) (id : Template.Id) :
    (store.clearDefault kind).get? id =
      (store.get? id).map fun t => if t.kind = kind then t.bare else t :=
  store.get?_update _ id

theorem ids_clearDefault (store : Store) (kind : Kind) : (store.clearDefault kind).ids = store.ids :=
  store.ids_update _

theorem isDefaultOf_clearDefault (store : Store) (kind other : Kind) (id : Template.Id) :
    (store.clearDefault other).IsDefaultOf kind id ↔ store.IsDefaultOf kind id ∧ kind ≠ other := by
  simp only [IsDefaultOf, get?_clearDefault, Option.map_eq_some_iff]
  constructor
  · rintro ⟨_, ⟨template, found, rfl⟩, rfl, flagged⟩
    split at flagged
    · cases flagged
    · next differs =>
      rw [if_neg differs]
      exact ⟨⟨template, found, rfl, flagged⟩, differs⟩
  · rintro ⟨⟨template, found, rfl, flagged⟩, differs⟩
    exact ⟨template, ⟨template, found, if_neg differs⟩, rfl, flagged⟩

theorem get?_promote (store : Store) (other id : Template.Id) :
    (store.promote other).get? id =
      (store.get? id).map fun t => if id = other then { t with isDefault := true } else t :=
  store.get?_update _ id

theorem ids_promote (store : Store) (other : Template.Id) : (store.promote other).ids = store.ids :=
  store.ids_update _

theorem isDefaultOf_promote (store : Store) (kind : Kind) (other id : Template.Id) :
    (store.promote other).IsDefaultOf kind id ↔
      store.IsDefaultOf kind id ∨
        other = id ∧ ∃ template, store.get? id = some template ∧ template.kind = kind := by
  simp only [IsDefaultOf, get?_promote, Option.map_eq_some_iff]
  by_cases same : id = other
  · subst same
    simp only [if_true, true_and]
    constructor
    · rintro ⟨_, ⟨template, found, rfl⟩, kind, -⟩
      exact .inr ⟨template, found, kind⟩
    · rintro (⟨template, found, kind, -⟩ | ⟨template, found, kind⟩) <;>
        exact ⟨_, ⟨template, found, rfl⟩, kind, rfl⟩
  · simp [same, Ne.symm same]

/-! ## Whole calls -/

/-- The store into which a template is put: without the default whose place the template takes. -/
def roomFor (store : Store) (template : Template) : Store :=
  if template.isDefault then store.clearDefault template.kind else store

theorem call_insert (store : Store) (valid : template.Valid) :
    store.call (.insert template) =
      (.ok ((store.roomFor template).get? template.id),
        (store.roomFor template).put template.id template) := by
  obtain ⟨parsed, made⟩ := valid
  unfold roomFor call Call.edit Edit.insert
  dsimp only
  rw [made]
  cases template.isDefault <;> rfl

theorem call_insert_of_fault (store : Store) {fault : Fault}
    (refused : Parsed.ofBody template.body = .error fault) :
    store.call (.insert template) = (.error (.invalid template.id fault), store) := by
  unfold call Call.edit Edit.insert
  dsimp only
  rw [refused]
  rfl

theorem call_remove (store : Store) (id : Template.Id) :
    store.call (.remove id) = (.ok (store.get? id), store.drop id) := rfl

theorem call_setDefault (found : store.get? id = some template) :
    store.call (.setDefault id) =
      (.ok none, (store.clearDefault template.kind).promote id) := by
  simp [call, Call.edit, Edit.setDefault, found, Except.map]

theorem call_setDefault_of_none (absent : store.get? id = none) :
    store.call (.setDefault id) = (.error (.unknown id), store) := by
  simp [call, Call.edit, Edit.setDefault, absent]

/-- The kind of a template does not depend on its flag. -/
theorem exists_kind_congr {one other : Option Template} {kind : Kind}
    (same : one.map Template.bare = other.map Template.bare) :
    (∃ template, one = some template ∧ template.kind = kind) ↔
      ∃ template, other = some template ∧ template.kind = kind := by
  have kinds : one.map (·.kind) = other.map (·.kind) := by
    have := congrArg (Option.map Template.kind) same
    rwa [Option.map_map, Option.map_map] at this
  rw [← Option.map_eq_some_iff, ← Option.map_eq_some_iff, kinds]

theorem isDefaultOf_roomFor (store : Store) (template : Template) (kind : Kind) (id : Template.Id) :
    (store.roomFor template).IsDefaultOf kind id ↔
      store.IsDefaultOf kind id ∧ ¬ (template.kind = kind ∧ template.isDefault) := by
  unfold roomFor
  split
  · next flagged => simp [isDefaultOf_clearDefault, flagged, eq_comm]
  · next plain => simp [plain]

theorem ids_roomFor (store : Store) (template : Template) :
    (store.roomFor template).ids = store.ids := by
  unfold roomFor
  split
  · exact store.ids_clearDefault template.kind
  · rfl

theorem bare_get?_clearDefault (store : Store) (kind : Kind) (id : Template.Id) :
    ((store.clearDefault kind).get? id).map Template.bare = (store.get? id).map Template.bare := by
  rw [get?_clearDefault, Option.map_map]
  congr 1
  funext template
  by_cases same : template.kind = kind <;> simp [same, Template.bare]

theorem bare_get?_promote (store : Store) (other id : Template.Id) :
    ((store.promote other).get? id).map Template.bare = (store.get? id).map Template.bare := by
  rw [get?_promote, Option.map_map]
  congr 1
  funext template
  by_cases same : id = other <;> simp [same, Template.bare]

theorem bare_get?_roomFor (store : Store) (template : Template) (id : Template.Id) :
    ((store.roomFor template).get? id).map Template.bare = (store.get? id).map Template.bare := by
  unfold roomFor
  split
  · exact store.bare_get?_clearDefault template.kind id
  · rfl

/-- A call that is refused changes nothing. -/
theorem call_of_refused (store : Store) (call : Call) (refused : call.Refused store.get?) :
    ∃ problem, store.call call = (.error problem, store) := by
  cases call with
  | insert template =>
    cases made : Parsed.ofBody template.body with
    | ok parsed => exact absurd ⟨parsed, made⟩ refused
    | error fault => exact ⟨_, call_insert_of_fault store made⟩
  | remove id => exact refused.elim
  | setDefault id => exact ⟨_, call_setDefault_of_none refused⟩

theorem call_of_not_refused {call : Call} (allowed : ¬ call.Refused store.get?) :
    ∃ answer, (store.call call).1 = .ok answer := by
  cases call with
  | insert template => exact ⟨_, congrArg Prod.fst (call_insert store (not_not.mp allowed))⟩
  | remove id => exact ⟨_, rfl⟩
  | setDefault id =>
    obtain ⟨template, found⟩ := Option.ne_none_iff_exists'.mp allowed
    exact ⟨_, congrArg Prod.fst (call_setDefault found)⟩

theorem call_error_iff {call : Call} :
    (∃ problem, (store.call call).1 = .error problem) ↔ call.Refused store.get? := by
  constructor
  · rintro ⟨problem, failed⟩
    by_contra allowed
    obtain ⟨answer, made⟩ := call_of_not_refused allowed
    cases made.symm.trans failed
  · intro refused
    obtain ⟨problem, same⟩ := store.call_of_refused call refused
    exact ⟨problem, congrArg Prod.fst same⟩

/-- A call that fails changes nothing. -/
theorem Call.harmless_edit (call : Call) : call.edit.Harmless := by
  intro store problem failed
  obtain ⟨_, same⟩ := store.call_of_refused call (call_error_iff.mp ⟨problem, failed⟩)
  exact congrArg Prod.snd same

/-- A template is taken in only if its body parses. -/
theorem call_insert_of_not_valid (store : Store) (invalid : ¬ template.Valid) :
    (store.call (.insert template)).2 = store := by
  obtain ⟨_, same⟩ := store.call_of_refused (.insert template) invalid
  rw [same]

/-- What a call leaves under an identifier, flags of defaults aside. -/
theorem bare_get?_call (store : Store) (call : Call) (id : Template.Id) :
    ((store.call call).2.get? id).map Template.bare =
      (call.leaves id (store.get? id)).map Template.bare := by
  cases call with
  | insert template =>
    by_cases valid : template.Valid
    · rw [call_insert store valid, get?_put, Call.leaves]
      by_cases same : template.id = id
      · simp [same, valid]
      · simpa [same] using store.bare_get?_roomFor template id
    · simp [call_insert_of_not_valid store valid, Call.leaves, valid]
  | remove other => rw [call_remove, get?_drop, Call.leaves]
  | setDefault other =>
    rw [Call.leaves]
    cases found : store.get? other with
    | some template => rw [call_setDefault found, bare_get?_promote, bare_get?_clearDefault]
    | none => rw [call_setDefault_of_none found]

/-- Who is the default of a kind behind a call: whom the call makes it, else who was it, unless the
call makes another one the default or takes this one away. -/
theorem isDefaultOf_call (store : Store) (call : Call) (kind : Kind) (id : Template.Id) :
    (store.call call).2.IsDefaultOf kind id ↔
      call.Promotes store.get? kind id ∨
        store.IsDefaultOf kind id ∧ (∀ other, ¬ call.Promotes store.get? kind other) ∧
          ¬ call.Withdraws kind id := by
  cases call with
  | insert template =>
    by_cases valid : template.Valid
    · have room := store.isDefaultOf_roomFor template kind id
      rw [call_insert store valid]
      simp only [IsDefaultOf, get?_put, Call.Promotes, Call.Withdraws] at room ⊢
      by_cases same : template.id = id
      · simp [same, valid]
      · simp [same, valid, room]
    · simp [call_insert_of_not_valid store valid, Call.Promotes, Call.Withdraws, valid]
  | remove other =>
    rw [call_remove]
    simp only [IsDefaultOf, get?_drop, Call.Promotes, Call.Withdraws]
    by_cases same : other = id <;> simp [same]
  | setDefault other =>
    simp only [Call.Promotes, Call.Withdraws]
    cases found : store.get? other with
    | some template =>
      have unmoved : (∀ one, ¬ (other = one ∧
          ∃ template, store.get? one = some template ∧ template.kind = kind)) ↔
          kind ≠ template.kind := by
        simp [found, eq_comm]
      rw [call_setDefault found, isDefaultOf_promote, isDefaultOf_clearDefault,
        exists_kind_congr (store.bare_get?_clearDefault template.kind id), unmoved]
      simp [or_comm]
    | none =>
      rw [call_setDefault_of_none found]
      have unmoved : ∀ one, ¬ (other = one ∧
          ∃ template, store.get? one = some template ∧ template.kind = kind) := by
        simp [found]
      simp [unmoved]

/-- The order of the templates behind a call. -/
theorem ids_call (store : Store) (call : Call) : (store.call call).2.ids = call.order store.ids := by
  cases call with
  | insert template =>
    rw [Call.order]
    by_cases valid : template.Valid
    · rw [call_insert store valid, ids_put, ids_roomFor]
      by_cases known : template.id ∈ store.ids <;> simp [known, valid]
    · simp [call_insert_of_not_valid store valid, valid]
  | remove other => exact store.ids_drop other
  | setDefault other =>
    cases found : store.get? other with
    | some template => rw [call_setDefault found, ids_promote, ids_clearDefault, Call.order]
    | none => rw [call_setDefault_of_none found, Call.order]

end Store

end Stencil
