import Stencil.Attempt
import Stencil.Body.Node
import Stencil.Entries
import Stencil.Template.Seed

/-! # The store of templates

Templates by identifier, in the order in which they were first stored. A body that does not parse is
refused, and a kind has at most one default: whoever becomes the default takes the place of the
one before. The identifier under which a template is stored is kept beside it: whoever stores a
template chooses it.
-/

namespace Stencil

/-- Stored templates by identifier. -/
structure Store where
  entries : List (Template.Id × Template)

namespace Store

/-- Why the store refuses something. -/
inductive Problem where
  /-- The body of a template does not parse. -/
  | invalid (id : Template.Id) (fault : Fault)
  /-- There is no template with an identifier. -/
  | unknown (id : Template.Id)

/-- What is said about a refusal. -/
def Problem.message : Problem → String
  | invalid id fault => "template " ++ id.text ++ " is invalid: " ++ fault.message
  | unknown id => "template " ++ id.text ++ " not found"

/-- The empty store. -/
def empty : Store := ⟨[]⟩

/-- The store with templates, each under its own identifier; of two with the same one the later. -/
def ofTemplates (templates : List Template) : Store :=
  ⟨templates.foldl (fun entries template => putEntry template.id template entries) []⟩

/-- The store with the built-in templates, each the default of its kind. -/
def withSeeds : Store := ofTemplates Kind.seeds

/-- The templates in order. -/
def templates (store : Store) : List Template := store.entries.map (·.2)

/-- The number of templates. -/
def size (store : Store) : Nat := store.entries.length

/-- The template under an identifier. -/
def get? (store : Store) (id : Template.Id) : Option Template := store.entries.lookup id

/-- The templates of a kind in order. -/
def ofKind (store : Store) (kind : Kind) : List Template := store.templates.filter (·.kind = kind)

/-- The default template of a kind. -/
def default? (store : Store) (kind : Kind) : Option Template := (store.ofKind kind).find? (·.isDefault)

/-- The store with a template under an identifier. -/
def put (store : Store) (id : Template.Id) (template : Template) : Store :=
  ⟨putEntry id template store.entries⟩

/-- The store without the template under an identifier. -/
def drop (store : Store) (id : Template.Id) : Store := ⟨dropEntry id store.entries⟩

/-- The store with each template changed, which stays under its identifier. -/
def update (store : Store) (change : Template.Id → Template → Template) : Store :=
  ⟨store.entries.map fun entry => (entry.1, change entry.1 entry.2)⟩

/-- The store without a default for a kind. -/
def clearDefault (store : Store) (kind : Kind) : Store :=
  store.update fun _ t => if t.kind = kind then { t with isDefault := false } else t

/-- The store with the flag of a default set on the template under an identifier. -/
def promote (store : Store) (id : Template.Id) : Store :=
  store.update fun key t => if key = id then { t with isDefault := true } else t

/-- Work on a store in place, which may be refused. -/
abbrev Edit := Attempt Store Problem

namespace Edit

/-- Puts a template into the store under its own identifier and answers with the one that it
replaces. -/
def insert (template : Template) : Edit (Option Template) := do
  if let .error fault := Parsed.ofBody template.body then
    throw (.invalid template.id fault)
  if template.isDefault then
    modify (·.clearDefault template.kind)
  modifyGet fun store => (store.get? template.id, store.put template.id template)

/-- Takes the template under an identifier out of the store and answers with it. -/
def remove (id : Template.Id) : Edit (Option Template) :=
  modifyGet fun store => (store.get? id, store.drop id)

/-- Makes a template the default of its kind. -/
def setDefault (id : Template.Id) : Edit Unit := do
  let some template := (← get).get? id | throw (.unknown id)
  modify (·.clearDefault template.kind)
  modify (·.promote id)

end Edit

/-- The store with a template, and the template it replaces. -/
def insert (store : Store) (template : Template) : Except Problem (Option Template × Store) :=
  Attempt.result store (Edit.insert template)

/-- The store without the template under an identifier. -/
def remove (store : Store) (id : Template.Id) : Store := (Attempt.on store (Edit.remove id)).2

/-- The store with a template as the default of its kind. -/
def setDefault (store : Store) (id : Template.Id) : Except Problem Store :=
  (Attempt.result store (Edit.setDefault id)).map (·.2)

end Store

end Stencil
