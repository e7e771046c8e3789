import Stencil.Invoice.Document
import Stencil.Invoice.Reading
import Stencil.Value

/-! # The context of an invoice

The data that templates see for an invoice document: the fields of the invoice itself at the top and
again under `invoice`, then `customer`, `business` and `projects`. Absent fields are there as empty
values, so a template can name them without a warning.
-/

namespace Stencil.Invoice

/-- A text that may be absent, as data. -/
def textValue : Option String → Value
  | some s => .string s
  | none => .null

/-- A date that may be absent, as data. -/
def dateValue : Option Date → Value
  | some day => .date day
  | none => .null

/-- An amount that may be absent, as data. -/
def floatValue : Option Float → Value
  | some x => .float x
  | none => .null

/-- A customer or a business as data. -/
def Party.toValue (party : Party) : Value :=
  .map [("name", .string party.name), ("email", textValue party.email),
    ("phone", textValue party.phone), ("address", textValue party.address)]

/-- A job as data. -/
def Job.toValue (job : Job) : Value :=
  .map [("title", .string job.title), ("description", textValue job.description),
    ("price", .float job.price), ("status", textValue job.status),
    ("scheduledDate", dateValue job.scheduledDate)]

/-- A project as data, with the total of its jobs. -/
def Project.toValue (project : Project) : Value :=
  .map [("name", .string project.name), ("description", textValue project.description),
    ("status", textValue project.status), ("budget", floatValue project.budget),
    ("startDate", dateValue project.startDate), ("endDate", dateValue project.endDate),
    ("jobsTotal", .float project.jobsTotal), ("jobs", .list (project.jobs.map Job.toValue))]

/-- The fields of the invoice proper as entries of a map. -/
def Header.entries (header : Header) : List (String × Value) :=
  [("invoiceNumber", .string header.invoiceNumber), ("issueDate", .date header.issueDate),
    ("dueDate", dateValue header.dueDate), ("status", textValue header.status),
    ("subtotalAmount", .float header.subtotalAmount), ("taxAmount", .float header.taxAmount),
    ("totalAmount", .float header.totalAmount), ("notes", textValue header.notes)]

/-- The data that templates see for a document. -/
def Document.toContext (document : Document) : Value :=
  .map (document.invoice.entries ++
    [("invoice", .map document.invoice.entries), ("customer", document.customer.toValue),
      ("business", document.business.toValue),
      ("projects", .list (document.projects.map Project.toValue))])

/-- Documents by invoice number. -/
structure Archive where
  documents : List (String × Document) := []

/-- The archive with a document in place of any other with its number. -/
def Archive.insert (archive : Archive) (document : Document) : Archive :=
  ⟨putEntry document.invoice.invoiceNumber document archive.documents⟩

/-- The data for the invoice with a number. -/
def Archive.context? (archive : Archive) (number : String) : Option Value :=
  (archive.documents.lookup number).map Document.toContext

/-- What is said about an invoice that is not in the archive. -/
def Archive.notFound (number : String) : String := "invoice '" ++ number ++ "' not found"

end Stencil.Invoice
