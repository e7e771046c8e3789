import Stencil.Proofs.Entries
import Stencil.Proofs.Template.Harmless

/-! # The cache changes no answer

Every entry of a cache is the parse of a body that an engine was given, under the identifier and the
digest of that body (`Cache.Sourced`). Whatever an engine is called for, its entries stay so
(`Engine.Kept.run`). Where digests tell the bodies of an identifier apart, an entry that is found
is therefore the parse of the very body it is looked up for, and an engine answers as it would
without a cache. Calls that fail leave no trace in an engine (`Engine.step_of_fails`).
-/

namespace Stencil

/-- Templates with the same identifier and different bodies have different digests. -/
def Template.ToldApart (given : List Template) : Prop :=
  ∀ one ∈ given, ∀ other ∈ given, one.id = other.id →
    Text.digest one.body = Text.digest other.body → one.body = other.body

namespace Cache

/-- Every entry comes from one of the given templates. -/
def Sourced (given : List Template) (cache : Cache) : Prop :=
  ∀ id entry, (id, entry) ∈ cache.entries → ∃ template ∈ given,
    template.id = id ∧ Text.digest template.body = entry.digest ∧
      Parsed.ofBody template.body = .ok entry.parsed

variable {given : List Template} {cache : Cache} {template : Template}

theorem exists_entry_of_lookup? {id : Template.Id} {digest : UInt64} {parsed : Parsed}
    (found : cache.lookup? id digest = some parsed) :
    ∃ entry, (id, entry) ∈ cache.entries ∧ entry.digest = digest ∧ entry.parsed = parsed := by
  rw [lookup?] at found
  split at found
  · next entry held =>
    obtain ⟨same, known⟩ := Option.ite_none_right_eq_some.mp found
    exact ⟨entry, mem_of_lookup held, same, Option.some.inj known⟩
  · cases found

theorem sourced_empty (given : List Template) : empty.Sourced given := by
  intro id entry member
  cases member

namespace Sourced

theorem drop (sourced : cache.Sourced given) (id : Template.Id) :
    Sourced given ⟨dropEntry id cache.entries⟩ :=
  fun other entry member => sourced other entry (List.mem_filter.mp member).1

/-- What is found for a template is the parse of its body, for no other body has its digest. -/
theorem ofBody_of_lookup? (sourced : cache.Sourced given) (apart : Template.ToldApart given)
    (member : template ∈ given) {parsed : Parsed}
    (hit : cache.lookup? template.id (Text.digest template.body) = some parsed) :
    Parsed.ofBody template.body = .ok parsed := by
  obtain ⟨entry, held, digest, rfl⟩ := exists_entry_of_lookup? hit
  obtain ⟨source, among, id, digest', made⟩ := sourced _ entry held
  rwa [apart source among template member id (digest'.trans digest)] at made

/-- A template is parsed with the cache as without it. -/
theorem on_parse_fst (sourced : cache.Sourced given) (apart : Template.ToldApart given)
    (member : template ∈ given) :
    (Attempt.on cache (Use.parse template)).1 = Parsed.ofBody template.body := by
  cases found : cache.lookup? template.id (Text.digest template.body) with
  | some parsed => rw [on_parse_of_hit found, sourced.ofBody_of_lookup? apart member found]
  | none =>
    rw [on_parse_of_miss found]
    cases Parsed.ofBody template.body <;> rfl

theorem on_parse_snd (sourced : cache.Sourced given) (member : template ∈ given) :
    (Attempt.on cache (Use.parse template)).2.Sourced given := by
  cases found : cache.lookup? template.id (Text.digest template.body) with
  | some known => rwa [on_parse_of_hit found]
  | none =>
    rw [on_parse_of_miss found]
    cases read : Parsed.ofBody template.body with
    | error fault => exact sourced
    | ok fresh =>
      intro id entry held
      rcases mem_putEntry held with same | other
      · cases same
        exact ⟨template, member, rfl, rfl, read⟩
      · exact sourced id entry other

end Sourced

end Cache

namespace Engine

/-- A call on an engine. -/
inductive Call where
  | render (template : Template) (data : Value)
  | renderById (catalog : Catalog) (id : Template.Id) (data : Value)
  | renderDefault (catalog : Catalog) (kind : Kind) (data : Value)
  | renderInvoice (catalog : Catalog) (ledger : Ledger) (kind : Kind) (number : String)
  | parse (template : Template)
  | invalidate (id : Template.Id)
  | clear

/-- The template that a call gives to the engine, be it handed in or picked from a catalog. -/
def Call.template? : Call → Option Template
  | render template _ | parse template => some template
  | renderById catalog id _ => catalog.get? id
  | renderDefault catalog kind _ => catalog.default? kind
  | renderInvoice catalog ledger kind number =>
    (ledger.context? number).bind fun _ => catalog.default? kind
  | invalidate _ | clear => none

/-- The engine behind a call, be it one that fails or not. -/
def step (engine : Engine) : Call → Engine
  | .render template data => (Attempt.on engine (Use.render template data)).2
  | .renderById catalog id data => (Attempt.on engine (Use.renderById catalog id data)).2
  | .renderDefault catalog kind data => (Attempt.on engine (Use.renderDefault catalog kind data)).2
  | .renderInvoice catalog ledger kind number =>
    (Attempt.on engine (Use.renderInvoice catalog ledger kind number)).2
  | .parse template => (Attempt.on engine (Use.parse template)).2
  | .invalidate id => (engine.invalidate id).2
  | .clear => { engine with cache := .empty }

/-- A call fails. -/
def Call.Fails (engine : Engine) : Call → Prop
  | render template data => ∃ fault, engine.render template data = .error fault
  | renderById catalog id data => ∃ problem, engine.renderById catalog id data = .error problem
  | renderDefault catalog kind data =>
    ∃ problem, engine.renderDefault catalog kind data = .error problem
  | renderInvoice catalog ledger kind number =>
    ∃ problem, engine.renderInvoice catalog ledger kind number = .error problem
  | parse template => ∃ fault, engine.cache.parse template = .error fault
  | invalidate _ | clear => False

/-- A call that fails leaves an engine as it was, with all that it has parsed. -/
theorem step_of_fails {engine : Engine} {call : Call} (fails : call.Fails engine) :
    engine.step call = engine := by
  cases call with
  | render template data =>
    obtain ⟨fault, failed⟩ := fails
    exact (Use.harmless_render template data).unchanged failed
  | renderById catalog id data =>
    obtain ⟨problem, failed⟩ := fails
    exact (Use.harmless_renderById catalog id data).unchanged failed
  | renderDefault catalog kind data =>
    obtain ⟨problem, failed⟩ := fails
    exact (Use.harmless_renderDefault catalog kind data).unchanged failed
  | renderInvoice catalog ledger kind number =>
    obtain ⟨problem, failed⟩ := fails
    exact (Use.harmless_renderInvoice catalog ledger kind number).unchanged failed
  | parse template =>
    obtain ⟨fault, failed⟩ := fails
    have kept := (Cache.Use.harmless_parse template).unchanged failed
    rw [step, Use.parse, Use.on_onCache, kept]
  | invalidate id => exact fails.elim
  | clear => exact fails.elim

/-- The engine behind some calls. -/
def run (engine : Engine) (calls : List Call) : Engine := calls.foldl step engine

/-- A call on an engine answers as it would on one without a cache, which has only the options
of `fresh`. -/
def Call.Transparent (fresh engine : Engine) : Call → Prop
  | render template data =>
    (engine.render template data).map (·.1) = fresh.renderBody template.body data ∧
      (fresh.options = {} → (engine.render template data).map (·.1) = template.render data)
  | renderById catalog id data => ∀ template, catalog.get? id = some template →
    (engine.renderById catalog id data).map (·.1) =
      (fresh.renderBody template.body data).mapError .fault
  | renderDefault catalog kind data => ∀ template, catalog.default? kind = some template →
    (engine.renderDefault catalog kind data).map (·.1) =
      (fresh.renderBody template.body data).mapError .fault
  | renderInvoice catalog ledger kind number =>
    ∀ data, ledger.context? number = some data →
      ∀ template, catalog.default? kind = some template →
        (engine.renderInvoice catalog ledger kind number).map (·.1) =
          (fresh.renderBody template.body data).mapError .fault
  | parse template => (engine.cache.parse template).map (·.1) = Parsed.ofBody template.body
  | invalidate _ | clear => True

/-- What an engine keeps while it is called: its options, and where its entries come from. -/
structure Kept (given : List Template) (fresh engine : Engine) : Prop where
  options : engine.options = fresh.options
  sourced : engine.cache.Sourced given

namespace Kept

variable {given : List Template} {fresh engine : Engine} {template : Template}

theorem on_parse (kept : Kept given fresh engine) (member : template ∈ given) :
    Kept given fresh (Attempt.on engine (Use.parse template)).2 :=
  ⟨kept.options, kept.sourced.on_parse_snd member⟩

theorem on_render (kept : Kept given fresh engine) (member : template ∈ given) (data : Value) :
    Kept given fresh (Attempt.on engine (Use.render template data)).2 := by
  rw [Use.on_render]
  exact kept.on_parse member

theorem on_renderFound (kept : Kept given fresh engine) {found : Option Template}
    (member : ∀ template, found = some template → template ∈ given) (absent : Problem)
    (data : Value) :
    Kept given fresh (Attempt.on engine (Use.renderFound found absent data)).2 := by
  cases found with
  | none => exact kept
  | some template => exact kept.on_render (member template rfl) data

theorem step (kept : Kept given fresh engine) (call : Call)
    (member : ∀ template, call.template? = some template → template ∈ given) :
    Kept given fresh (engine.step call) := by
  cases call with
  | render template data => exact kept.on_render (member template rfl) data
  | renderById catalog id data => exact kept.on_renderFound member _ data
  | renderDefault catalog kind data => exact kept.on_renderFound member _ data
  | renderInvoice catalog ledger kind number =>
    rw [Engine.step]
    cases known : ledger.context? number with
    | none =>
      rw [Use.renderInvoice, known]
      exact kept
    | some data =>
      rw [Use.renderInvoice_of_some known]
      refine kept.on_renderFound (fun template picked => member template ?_) _ data
      rw [Call.template?, known, Option.bind_some, picked]
  | parse template => exact kept.on_parse (member template rfl)
  | invalidate id => exact ⟨kept.options, kept.sourced.drop id⟩
  | clear => exact ⟨kept.options, Cache.sourced_empty given⟩

theorem run (kept : Kept given fresh engine) (calls : List Call)
    (member : ∀ template ∈ calls.filterMap Call.template?, template ∈ given) :
    Kept given fresh (engine.run calls) := by
  induction calls generalizing engine with
  | nil => exact kept
  | cons call rest ih =>
    have first := kept.step call fun template presented =>
      member template (List.mem_filterMap.mpr ⟨call, List.mem_cons_self, presented⟩)
    refine ih first fun template among => member template ?_
    obtain ⟨other, later, presented⟩ := List.mem_filterMap.mp among
    exact List.mem_filterMap.mpr ⟨other, List.mem_cons_of_mem call later, presented⟩

theorem on_render_fst (kept : Kept given fresh engine) (apart : Template.ToldApart given)
    (member : template ∈ given) (data : Value) :
    (Attempt.on engine (Use.render template data)).1 = fresh.renderBody template.body data := by
  rw [renderBody, ← kept.sourced.on_parse_fst apart member, ← kept.options, Use.on_render]
  rfl

theorem on_renderFound_fst (kept : Kept given fresh engine) (apart : Template.ToldApart given)
    (member : template ∈ given) (absent : Problem) (data : Value) :
    (Attempt.on engine (Use.renderFound (some template) absent data)).1 =
      (fresh.renderBody template.body data).mapError .fault := by
  rw [← kept.on_render_fst apart member data, Use.renderFound_some, Attempt.on_adapt]

theorem transparent (kept : Kept given fresh engine) (apart : Template.ToldApart given)
    (call : Call) (member : ∀ template, call.template? = some template → template ∈ given) :
    call.Transparent fresh engine := by
  cases call with
  | render template data =>
    have same : (engine.render template data).map (·.1) = fresh.renderBody template.body data := by
      rw [render, Attempt.result_map_fst]
      exact kept.on_render_fst apart (member template rfl) data
    refine ⟨same, fun plain => ?_⟩
    rw [same, renderBody, plain, Template.render]
  | renderById catalog id data =>
    intro template picked
    rw [renderById, Attempt.result_map_fst, Use.renderById, picked]
    exact kept.on_renderFound_fst apart (member template picked) _ data
  | renderDefault catalog kind data =>
    intro template picked
    rw [renderDefault, Attempt.result_map_fst, Use.renderDefault, picked]
    exact kept.on_renderFound_fst apart (member template picked) _ data
  | renderInvoice catalog ledger kind number =>
    intro data known template picked
    have presented : template ∈ given :=
      member template (by rw [Call.template?, known, Option.bind_some, picked])
    rw [renderInvoice, Attempt.result_map_fst, Use.renderInvoice_of_some known, Use.renderDefault,
      picked]
    exact kept.on_renderFound_fst apart presented _ data
  | parse template =>
    rw [Call.Transparent, Cache.parse, Attempt.result_map_fst]
    exact kept.sourced.on_parse_fst apart (member template rfl)
  | invalidate id => trivial
  | clear => trivial

end Kept

/-- Among any calls on a new engine, each answers as it would without a cache, as long as digests
tell the bodies apart that are given for one identifier. -/
theorem run_transparent (options : Options) (calls : List Call)
    (apart : Template.ToldApart (calls.filterMap Call.template?)) (before after : List Call)
    (call : Call) (split : calls = before ++ call :: after) :
    call.Transparent { options } (run { options } before) := by
  subst split
  have new : Kept ((before ++ call :: after).filterMap Call.template?) { options } { options } :=
    ⟨rfl, Cache.sourced_empty _⟩
  refine (new.run before fun template among => ?_).transparent apart call fun template given => ?_
  · exact List.filterMap_append ▸ List.mem_append_left _ among
  · exact List.mem_filterMap.mpr ⟨call, by simp, given⟩

/-- A template is edited, then edited back. -/
theorem run_transparent_of_edits :
    let draft : Template := { id := ⟨1⟩, kind := .invoice, body := "\x7b\x7bname\x7d\x7d" }
    let edited : Template := { draft with body := "\x7b\x7bnumber\x7d\x7d" }
    let data : Value := .map [("name", .string "Ann")]
    let calls : List Call := [.render draft data, .render edited data, .render draft data]
    Template.ToldApart (calls.filterMap Call.template?) ∧
      ((run {} (calls.take 2)).render draft data).map (·.1) = draft.render data := by
  intro draft edited data calls
  have apart : Template.ToldApart (calls.filterMap Call.template?) := by
    unfold Template.ToldApart
    decide +kernel
  exact ⟨apart, (run_transparent {} calls apart (calls.take 2) [] (.render draft data) rfl).2 rfl⟩

end Engine

end Stencil
