import Stencil.Invoice.Context
import Stencil.Render
import Stencil.Template.Cache
import Stencil.Template.Store

/-! # The engine

Renders templates from a catalog under fixed options, and parses a body again only after an edit.
-/

namespace Stencil

/-- Where an engine finds templates: by identifier, and by kind the default. -/
structure Catalog where
  get? : Template.Id → Option Template
  default? : Kind → Option Template

/-- A store as a catalog of its templates. -/
def Store.catalog (store : Store) : Catalog := ⟨store.get?, store.default?⟩

instance : Coe Store Catalog := ⟨Store.catalog⟩

/-- Where an engine finds the data for an invoice: by its number. -/
structure Ledger where
  context? : String → Option Value

/-- An archive as a ledger of its documents. -/
def Invoice.Archive.ledger (archive : Invoice.Archive) : Ledger := ⟨archive.context?⟩

instance : Coe Invoice.Archive Ledger := ⟨Invoice.Archive.ledger⟩

/-- Options, and the templates parsed so far. -/
structure Engine where
  options : Options := {}
  cache : Cache := .empty

namespace Engine

/-- Why nothing is rendered. -/
inductive Problem where
  /-- The body of the template does not parse. -/
  | fault (fault : Fault)
  /-- A kind has no default template. -/
  | noDefault (kind : Kind)
  /-- There is no template with an identifier. -/
  | unknownTemplate (id : Template.Id)
  /-- There is no invoice with a number. -/
  | unknownInvoice (number : String)

/-- What is said when nothing is rendered. -/
def Problem.message : Problem → String
  | fault cause => cause.message
  | noDefault kind => "no default " ++ kind.name ++ " template"
  | unknownTemplate id => "template " ++ id.text ++ " not found"
  | unknownInvoice number => Invoice.Archive.notFound number

/-- A body rendered without the cache. -/
def renderBody (engine : Engine) (body : String) (data : Value) : Except Fault Rendered :=
  (Parsed.ofBody body).map (·.render data engine.options)

/-- Work with an engine in place. -/
abbrev Use := Attempt Engine

namespace Use

/-- Work with the cache of an engine. -/
def onCache (work : Cache.Use α) : Use Fault α :=
  ExceptT.mk (modifyGet fun engine =>
    let (answer, cache) := Attempt.on engine.cache work
    (answer, { engine with cache }))

/-- A template parsed, as the cache has it. -/
def parse (template : Template) : Use Fault Parsed := onCache (Cache.Use.parse template)

/-- A template rendered, parsed as the cache has it. -/
def render (template : Template) (data : Value) : Use Fault Rendered := do
  let parsed ← parse template
  return parsed.render data (← get).options

/-- A template from a catalog rendered, if it is there. -/
def renderFound (found : Option Template) (absent : Problem) (data : Value) :
    Use Problem Rendered := do
  let some template := found | throw absent
  (render template data).adapt .fault

/-- The template with an identifier rendered. -/
def renderById (catalog : Catalog) (id : Template.Id) (data : Value) : Use Problem Rendered :=
  renderFound (catalog.get? id) (.unknownTemplate id) data

/-- The default template of a kind rendered. -/
def renderDefault (catalog : Catalog) (kind : Kind) (data : Value) : Use Problem Rendered :=
  renderFound (catalog.default? kind) (.noDefault kind) data

/-- The default template of a kind rendered for an invoice. -/
def renderInvoice (catalog : Catalog) (ledger : Ledger) (kind : Kind) (number : String) :
    Use Problem Rendered := do
  let some data := ledger.context? number | throw (.unknownInvoice number)
  renderDefault catalog kind data

variable {engine : Engine}

theorem on_onCache (work : Cache.Use α) :
    Attempt.on engine (onCache work) =
      ((Attempt.on engine.cache work).1,
        { engine with cache := (Attempt.on engine.cache work).2 }) := rfl

/-- Once a template is parsed, nothing else happens to an engine and nothing fails any more. -/
theorem on_render (template : Template) (data : Value) :
    Attempt.on engine (render template data) =
      ((Attempt.on engine (parse template)).1.map (·.render data engine.options),
        (Attempt.on engine (parse template)).2) := by
  rw [render, Attempt.on_bind, parse, on_onCache]
  rcases Attempt.on engine.cache (Cache.Use.parse template) with ⟨fault | parsed, next⟩ <;> rfl

theorem renderFound_some (template : Template) (absent : Problem) (data : Value) :
    renderFound (some template) absent data = (render template data).adapt .fault := rfl

theorem renderInvoice_of_some {catalog : Catalog} {ledger : Ledger} {kind : Kind} {number : String}
    {data : Value} (known : ledger.context? number = some data) :
    renderInvoice catalog ledger kind number = renderDefault catalog kind data := by
  rw [renderInvoice, known]

end Use

/-- A template rendered, and the engine behind that. -/
def render (engine : Engine) (template : Template) (data : Value) :
    Except Fault (Rendered × Engine) :=
  Attempt.result engine (Use.render template data)

/-- The template with an identifier rendered, and the engine behind that. -/
def renderById (engine : Engine) (catalog : Catalog) (id : Template.Id) (data : Value) :
    Except Problem (Rendered × Engine) :=
  Attempt.result engine (Use.renderById catalog id data)

/-- The default template of a kind rendered, and the engine behind that. -/
def renderDefault (engine : Engine) (catalog : Catalog) (kind : Kind) (data : Value) :
    Except Problem (Rendered × Engine) :=
  Attempt.result engine (Use.renderDefault catalog kind data)

/-- The default template of a kind rendered for an invoice, and the engine behind that. -/
def renderInvoice (engine : Engine) (catalog : Catalog) (ledger : Ledger) (kind : Kind)
    (number : String) : Except Problem (Rendered × Engine) :=
  Attempt.result engine (Use.renderInvoice catalog ledger kind number)

/-- Whether a template was cached, and the engine without it in its cache. -/
def invalidate (engine : Engine) (id : Template.Id) : Bool × Engine :=
  let (cached, cache) := engine.cache.invalidate id
  (cached, { engine with cache })

end Engine

/-- A template rendered with the default options and without a cache. -/
def Template.render (template : Template) (data : Value) : Except Fault Rendered :=
  (Parsed.ofBody template.body).map (·.render data {})

end Stencil
