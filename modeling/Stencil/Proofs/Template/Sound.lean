import Mathlib.Data.List.Induction
import Stencil.Proofs.Template.Harmless
import Stencil.Proofs.Template.Seed

/-! # Sound stores

A store is sound if no identifier occurs twice, every template is stored under its own identifier,
every body parses, and no kind has two defaults. The empty store and the one with the built-in
templates are sound, and every call keeps a store sound (`Sound.call`). So rendering from a store that
came about by calls never meets a fault, whatever an engine has in its cache.
-/

namespace Stencil

namespace Store

/-- What all calls keep true of a store. -/
structure Sound (store : Store) : Prop where
  ids_nodup : store.ids.Nodup
  own_id : ∀ id template, store.get? id = some template → template.id = id
  valid : ∀ id template, store.get? id = some template → template.Valid
  one_default : ∀ kind one other, store.IsDefaultOf kind one → store.IsDefaultOf kind other →
    one = other

-- A store may well have a template under an identifier that is not its own; no call makes such a store.
example : (⟨[(⟨1⟩, { id := ⟨2⟩, kind := .receipt, body := "Paid" })]⟩ : Store).get? ⟨1⟩ =
    some { id := ⟨2⟩, kind := .receipt, body := "Paid" } := rfl

theorem sound_empty : empty.Sound where
  ids_nodup := .nil
  own_id id template found := by cases found
  valid id template found := by cases found
  one_default kind one other isDefault := by
    obtain ⟨template, found, _⟩ := isDefault
    cases found

/-! ## New stores -/

theorem ofTemplates_append_singleton (templates : List Template) (template : Template) :
    ofTemplates (templates ++ [template]) = (ofTemplates templates).put template.id template := by
  simp [ofTemplates, put]

theorem nodup_ids_ofTemplates (templates : List Template) : (ofTemplates templates).ids.Nodup := by
  induction templates using List.reverseRecOn with
  | nil => exact .nil
  | append_singleton templates template ih =>
    rw [ofTemplates_append_singleton]
    exact nodup_keys_putEntry ih template.id template

/-- Under an identifier is one of the templates, and it has this identifier. -/
theorem of_get?_ofTemplates {templates : List Template} {id : Template.Id} {template : Template}
    (found : (ofTemplates templates).get? id = some template) :
    template ∈ templates ∧ template.id = id := by
  induction templates using List.reverseRecOn with
  | nil => cases found
  | append_singleton templates last ih =>
    rw [ofTemplates_append_singleton, get?_put] at found
    split at found
    · next own =>
      cases found
      exact ⟨by simp, own⟩
    · exact ⟨List.mem_append_left _ (ih found).1, (ih found).2⟩

theorem sound_withSeeds : withSeeds.Sound where
  ids_nodup := nodup_ids_ofTemplates Kind.seeds
  own_id id template found := (of_get?_ofTemplates found).2
  valid id template found := (Kind.of_mem_seeds (of_get?_ofTemplates found).1).1
  one_default kind one other := by
    -- The identifier of a built-in template is determined by its kind.
    rintro ⟨template, found, rfl, -⟩ ⟨second, also, same, -⟩
    obtain ⟨member, rfl⟩ := of_get?_ofTemplates found
    obtain ⟨member', rfl⟩ := of_get?_ofTemplates also
    rw [(Kind.of_mem_seeds member).2, (Kind.of_mem_seeds member').2, same]

/-! ## Calls -/

theorem Call.promotes_unique {found : Template.Id → Option Template} {kind : Kind}
    {one other : Template.Id} {call : Call} (first : call.Promotes found kind one)
    (second : call.Promotes found kind other) : one = other := by
  cases call with
  | insert template => exact first.1.symm.trans second.1
  | remove id => exact first.elim
  | setDefault id => exact first.1.symm.trans second.1

theorem Call.order_nodup {ids : List Template.Id} (distinct : ids.Nodup) (call : Call) :
    (call.order ids).Nodup := by
  cases call with
  | insert template =>
    rw [order]
    split
    · next new => exact List.concat_eq_append ▸ List.Nodup.concat new.2 distinct
    · exact distinct
  | remove id => exact distinct.filter _
  | setDefault id => exact distinct

namespace Sound

variable {store : Store} {id : Template.Id} {template : Template}

/-- What is under an identifier behind a call was handed in for it, or it was there before. -/
theorem exists_of_get?_call {call : Call} (found : (store.call call).2.get? id = some template) :
    ∃ given, given.bare = template.bare ∧
      (call = .insert given ∧ given.id = id ∧ given.Valid ∨ store.get? id = some given) := by
  have same := store.bare_get?_call call id
  rw [found] at same
  obtain ⟨given, leaves, bare⟩ := Option.map_eq_some_iff.mp same.symm
  refine ⟨given, bare, ?_⟩
  cases call with
  | insert other => grind [Call.leaves]
  | remove other => grind [Call.leaves]
  | setDefault other => exact .inr leaves

theorem call (sound : store.Sound) (call : Call) : (store.call call).2.Sound where
  ids_nodup := by
    rw [ids_call]
    exact call.order_nodup sound.ids_nodup
  own_id id template found := by
    obtain ⟨given, bare, ⟨-, own, -⟩ | before⟩ := exists_of_get?_call found
    · exact (Template.id_of_bare_eq bare).symm.trans own
    · exact (Template.id_of_bare_eq bare).symm.trans (sound.own_id id given before)
  valid id template found := by
    obtain ⟨given, bare, ⟨-, -, valid⟩ | before⟩ := exists_of_get?_call found
    · exact Template.valid_of_bare_eq bare valid
    · exact Template.valid_of_bare_eq bare (sound.valid id given before)
  one_default kind one other first second := by
    rcases (store.isDefaultOf_call call kind one).mp first with made | ⟨was, unmoved, -⟩ <;>
      rcases (store.isDefaultOf_call call kind other).mp second with made' | ⟨was', unmoved', -⟩
    · exact Call.promotes_unique made made'
    · exact absurd made (unmoved' one)
    · exact absurd made' (unmoved other)
    · exact sound.one_default kind one other was was'

theorem run (sound : store.Sound) (calls : List Call) : (store.run calls).Sound := by
  induction calls using List.reverseRecOn with
  | nil => exact sound
  | append_singleton calls call ih =>
    rw [run_append_singleton]
    exact ih.call call

theorem get?_eq_some_iff_mem (sound : store.Sound) :
    store.get? id = some template ↔ (id, template) ∈ store.entries :=
  lookup_eq_some_iff_mem sound.ids_nodup

/-- The template under an identifier is the one that has it. -/
theorem get?_eq_some_iff (sound : store.Sound) :
    store.get? id = some template ↔ template ∈ store.templates ∧ template.id = id := by
  refine ⟨fun found => ⟨mem_of_get? found, sound.own_id id template found⟩, ?_⟩
  rintro ⟨member, rfl⟩
  obtain ⟨⟨key, _⟩, held, rfl⟩ := List.mem_map.mp member
  have found := sound.get?_eq_some_iff_mem.mpr held
  rwa [sound.own_id key _ found]

theorem valid_of_mem (sound : store.Sound) (member : template ∈ store.templates) :
    template.Valid :=
  sound.valid _ _ (sound.get?_eq_some_iff.mpr ⟨member, rfl⟩)

theorem default?_eq_some_iff (sound : store.Sound) {kind : Kind} :
    store.default? kind = some template ↔
      store.get? template.id = some template ∧ template.kind = kind ∧ template.isDefault := by
  have held {one : Template} (picked : store.default? kind = some one) :
      store.get? one.id = some one ∧ one.kind = kind ∧ one.isDefault := by
    obtain ⟨stored, same⟩ := List.mem_filter.mp (List.mem_of_find?_eq_some picked)
    exact ⟨sound.get?_eq_some_iff.mpr ⟨stored, rfl⟩, of_decide_eq_true same,
      List.find?_some picked⟩
  refine ⟨held, fun ⟨found, same, flagged⟩ => ?_⟩
  have ofKind : template ∈ store.ofKind kind :=
    List.mem_filter.mpr ⟨mem_of_get? found, decide_eq_true same⟩
  obtain ⟨other, picked⟩ :=
    Option.isSome_iff_exists.mp (List.find?_isSome.mpr ⟨template, ofKind, flagged⟩)
  obtain ⟨found', same', flagged'⟩ := held picked
  -- The one picked is another default of the kind, so it is the same.
  have ids := sound.one_default kind other.id template.id ⟨other, found', same', flagged'⟩
    ⟨template, found, same, flagged⟩
  rw [ids] at found'
  exact picked.trans (found'.symm.trans found)

/-- The templates are those under the identifiers, in their order. -/
theorem filterMap_get?_ids (sound : store.Sound) :
    store.ids.filterMap store.get? = store.templates :=
  filterMap_lookup_keys sound.ids_nodup

theorem map_id_templates (sound : store.Sound) : store.templates.map (·.id) = store.ids := by
  rw [templates, ids, List.map_map]
  refine List.map_congr_left fun entry held => ?_
  exact sound.own_id entry.1 entry.2 (sound.get?_eq_some_iff_mem.mpr held)

theorem length_defaults_le_one (sound : store.Sound) (kind : Kind) :
    ((store.ofKind kind).filter (·.isDefault)).length ≤ 1 := by
  have distinct : (((store.ofKind kind).filter (·.isDefault)).map (·.id)).Nodup := by
    refine List.Nodup.sublist ((List.filter_sublist.trans List.filter_sublist).map _) ?_
    exact sound.map_id_templates ▸ sound.ids_nodup
  have isDefault : ∀ template ∈ (store.ofKind kind).filter (·.isDefault),
      store.IsDefaultOf kind template.id := by
    intro template member
    obtain ⟨ofKind, flagged⟩ := List.mem_filter.mp member
    obtain ⟨stored, same⟩ := List.mem_filter.mp ofKind
    exact ⟨template, sound.get?_eq_some_iff.mpr ⟨stored, rfl⟩, of_decide_eq_true same, flagged⟩
  generalize (store.ofKind kind).filter (·.isDefault) = defaults at *
  rcases defaults with _ | ⟨one, _ | ⟨other, rest⟩⟩
  · exact Nat.zero_le 1
  · exact Nat.le_refl 1
  · have same := sound.one_default kind one.id other.id (isDefault one (by simp))
      (isDefault other (by simp))
    simp [same] at distinct

end Sound

end Store

/-- A body that parses is parsed, whether the cache has it or not. -/
theorem Cache.exists_parse {template : Template} (cache : Cache) (valid : template.Valid) :
    ∃ parsed next, Attempt.on cache (Use.parse template) = (.ok parsed, next) := by
  obtain ⟨parsed, made⟩ := valid
  cases found : cache.lookup? template.id (Text.digest template.body) with
  | some cached => exact ⟨_, _, on_parse_of_hit found⟩
  | none =>
    rw [on_parse_of_miss found, made]
    exact ⟨_, _, rfl⟩

/-- Rendering what a catalog finds fails with a fault only over a body that does not parse. -/
theorem Engine.result_renderFound_ne_fault (engine : Engine) {found : Option Template}
    (valid : ∀ template, found = some template → template.Valid) {absent : Problem} {fault : Fault}
    (other : absent ≠ .fault fault) (data : Value) :
    Attempt.result engine (Use.renderFound found absent data) ≠ .error (.fault fault) := by
  rw [Ne, Attempt.result_eq_error_iff]
  cases found with
  | none => exact fun failed => other (Except.error.inj failed)
  | some template =>
    obtain ⟨parsed, next, made⟩ := engine.cache.exists_parse (valid template rfl)
    intro failed
    rw [Use.renderFound_some, Attempt.on_adapt, Use.on_render, Use.parse, Use.on_onCache,
      made] at failed
    cases failed

namespace Store

theorem mem_of_default? {store : Store} {kind : Kind} {template : Template}
    (found : store.default? kind = some template) : template ∈ store.templates :=
  List.mem_of_mem_filter (List.mem_of_find?_eq_some found)

/-- Whatever calls are made on a new store, some of which may fail: no kind gets two defaults, every
body in the store parses, and no identifier is there twice. Every template is stored under its own
identifier and is what is found under it. So no engine meets a fault in rendering from the store. -/
theorem run_sound (start : Store) (new : start ∈ [empty, withSeeds]) (calls : List Call) :
    (∀ kind, (((start.run calls).ofKind kind).filter (·.isDefault)).length ≤ 1) ∧
    (∀ template ∈ (start.run calls).templates,
      ∃ parsed, Parsed.ofBody template.body = .ok parsed) ∧
    ((start.run calls).entries.map (·.1)).Nodup ∧
    (∀ id template, (id, template) ∈ (start.run calls).entries → template.id = id) ∧
    (∀ id template, (start.run calls).get? id = some template ↔
      (id, template) ∈ (start.run calls).entries) ∧
    (∀ id template, (start.run calls).get? id = some template ↔
      template ∈ (start.run calls).templates ∧ template.id = id) ∧
    ∀ (engine : Engine) (data : Value) (fault : Fault),
      (∀ id, engine.renderById (start.run calls) id data ≠ .error (.fault fault)) ∧
      ∀ kind, engine.renderDefault (start.run calls) kind data ≠ .error (.fault fault) := by
  have sound : (start.run calls).Sound := by
    rcases List.mem_pair.mp new with rfl | rfl
    · exact sound_empty.run calls
    · exact sound_withSeeds.run calls
  refine ⟨sound.length_defaults_le_one, fun template => sound.valid_of_mem, sound.ids_nodup,
    fun id template held => sound.own_id id template (sound.get?_eq_some_iff_mem.mpr held),
    fun id template => sound.get?_eq_some_iff_mem, fun id template => sound.get?_eq_some_iff,
    fun engine data fault => ⟨fun id => ?_, fun kind => ?_⟩⟩
  · exact engine.result_renderFound_ne_fault (sound.valid id) (by simp) data
  · refine engine.result_renderFound_ne_fault (fun template found => ?_) (by simp) data
    exact sound.valid_of_mem (mem_of_default? found)

/-- A built-in template is replaced by one of another kind, which then becomes the default there. -/
theorem run_sound_of_replacement :
    let calls : List Call :=
      [.insert { id := Kind.invoice.seedId, kind := .receipt, body := "Paid", isDefault := true },
        .setDefault Kind.proposal.seedId, .remove Kind.proposal.seedId]
    withSeeds ∈ [empty, withSeeds] ∧
      (∀ kind, (((withSeeds.run calls).ofKind kind).filter (·.isDefault)).length ≤ 1) ∧
      ∀ id template, (id, template) ∈ (withSeeds.run calls).entries → template.id = id := by
  intro calls
  have new : withSeeds ∈ [empty, withSeeds] := List.mem_pair.mpr (.inr rfl)
  have ⟨oneDefault, _, _, ownId, _⟩ := run_sound withSeeds new calls
  exact ⟨new, oneDefault, ownId⟩

end Store

end Stencil
