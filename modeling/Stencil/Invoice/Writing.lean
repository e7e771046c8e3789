import Stencil.Calendar.Pattern
import Stencil.Invoice.Document
import Stencil.Json.Writer

/-! # Writing invoice documents

An invoice document as JSON, all fields in order and the absent ones as `null`.
-/

namespace Stencil.Invoice

open Json (ofOption)

/-- A text that may be absent. -/
def textJson : Option String → Json := ofOption .string

/-- A double. -/
def floatJson (x : Float) : Json := .number (.float x)

/-- A date in the ISO form. -/
def dateJson (date : Date) : Json := .string date.iso

/-- A customer or a business as JSON. -/
def Party.toJson (party : Party) : Json :=
  .object [("name", .string party.name), ("email", textJson party.email),
    ("phone", textJson party.phone), ("address", textJson party.address)]

/-- A job as JSON. -/
def Job.toJson (job : Job) : Json :=
  .object [("title", .string job.title), ("description", textJson job.description),
    ("price", floatJson job.price), ("status", textJson job.status),
    ("scheduledDate", ofOption dateJson job.scheduledDate)]

/-- A project as JSON. -/
def Project.toJson (project : Project) : Json :=
  .object [("name", .string project.name), ("description", textJson project.description),
    ("status", textJson project.status), ("budget", ofOption floatJson project.budget),
    ("startDate", ofOption dateJson project.startDate),
    ("endDate", ofOption dateJson project.endDate), ("jobs", .array (project.jobs.map Job.toJson))]

/-- The invoice proper as JSON. -/
def Header.toJson (header : Header) : Json :=
  .object [("invoiceNumber", .string header.invoiceNumber), ("issueDate", dateJson header.issueDate),
    ("dueDate", ofOption dateJson header.dueDate), ("status", textJson header.status),
    ("subtotalAmount", floatJson header.subtotalAmount), ("taxAmount", floatJson header.taxAmount),
    ("totalAmount", floatJson header.totalAmount), ("notes", textJson header.notes)]

/-- An invoice document as JSON. -/
def Document.toJson (document : Document) : Json :=
  .object [("invoice", document.invoice.toJson), ("customer", document.customer.toJson),
    ("business", document.business.toJson),
    ("projects", .array (document.projects.map Project.toJson))]

end Stencil.Invoice
