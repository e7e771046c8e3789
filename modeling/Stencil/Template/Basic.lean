import Stencil.Json.Record
import Stencil.Template.Kind
import Stencil.Text.Digest

/-! # Templates

A template as it is stored: an identifier, the kind of document it produces, a title, its body, and
whether it is the default for its kind.
-/

namespace Stencil

/-- The identifier of a template: 64 bits. -/
structure Template.Id where
  value : UInt64
deriving DecidableEq, Repr

/-- The identifier derived from a name. -/
def Template.Id.ofName (name : String) : Template.Id := ⟨Text.digest name⟩

/-- An identifier in decimal. -/
def Template.Id.text (id : Template.Id) : String := Decimal.ofNat id.value.toNat

/-- A stored template. -/
structure Template where
  id : Template.Id
  kind : Kind
  title : String := ""
  body : String
  isDefault : Bool := false
deriving DecidableEq, Repr

namespace Template

/-- The fields of a template in JSON. -/
def fields : List (Json.Reader.RecordField Template) :=
  [Json.Reader.field "id" true Json.Reader.word fun id t => { t with id := ⟨id⟩ },
    Json.Reader.field "type" true Json.Reader.text fun name t => { t with kind := .ofName name },
    Json.Reader.field "title" false Json.Reader.text fun title t => { t with title },
    Json.Reader.field "body" true Json.Reader.text fun body t => { t with body },
    Json.Reader.field "isDefault" false Json.Reader.bool fun isDefault t => { t with isDefault }]

/-- Reads a template. -/
def reader : Json.Reader Template :=
  Json.Reader.record "Template" fields { id := ⟨0⟩, kind := .other "", body := "" }

end Template

end Stencil
