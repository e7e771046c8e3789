import Stencil.Template.Engine

/-! # Failed calls on a cache and an engine

Both are worked on in place, and a call may fail after any of its parts. It leaves the cache, and with
it the engine, as it was: an entry is written only for a body that did parse, and once a template is
parsed nothing fails any more.
-/

namespace Stencil

/-- A body that does not parse leaves no trace in the cache. -/
theorem Cache.Use.harmless_parse (template : Template) : (Cache.Use.parse template).Harmless := by
  intro cache fault failed
  cases found : cache.lookup? template.id (Text.digest template.body) with
  | some parsed => rw [on_parse_of_hit found]
  | none =>
    rw [on_parse_of_miss found] at failed ⊢
    cases made : Parsed.ofBody template.body with
    | error cause => rfl
    | ok parsed =>
      rw [made] at failed
      cases failed

namespace Engine.Use

theorem harmless_onCache {work : Cache.Use α} (harmless : work.Harmless) :
    (onCache work).Harmless := by
  intro engine fault failed
  rw [on_onCache] at failed ⊢
  rw [harmless engine.cache fault failed]

theorem harmless_parse (template : Template) : (parse template).Harmless :=
  harmless_onCache (Cache.Use.harmless_parse template)

theorem harmless_render (template : Template) (data : Value) : (render template data).Harmless :=
  (harmless_parse template).bind_of_sure fun parsed engine fault failed => by cases failed

theorem harmless_renderFound (found : Option Template) (absent : Problem) (data : Value) :
    (renderFound found absent data).Harmless := by
  cases found with
  | none => exact Attempt.harmless_throw absent
  | some template => exact (harmless_render template data).adapt Problem.fault

theorem harmless_renderById (catalog : Catalog) (id : Template.Id) (data : Value) :
    (renderById catalog id data).Harmless :=
  harmless_renderFound (catalog.get? id) (.unknownTemplate id) data

theorem harmless_renderDefault (catalog : Catalog) (kind : Kind) (data : Value) :
    (renderDefault catalog kind data).Harmless :=
  harmless_renderFound (catalog.default? kind) (.noDefault kind) data

theorem harmless_renderInvoice (catalog : Catalog) (ledger : Ledger) (kind : Kind)
    (number : String) : (renderInvoice catalog ledger kind number).Harmless := by
  rw [renderInvoice]
  cases ledger.context? number with
  | none => exact Attempt.harmless_throw (Problem.unknownInvoice number)
  | some data => exact harmless_renderDefault catalog kind data

end Engine.Use

end Stencil
