import Stencil.Invoice.Document
import Stencil.Json.Record

/-! # Reading invoice documents

The fields of an invoice document in JSON, in the order in which a record given as a list has them.
-/

namespace Stencil.Invoice

open Json (Reader)
open Json.Reader (RecordField field text float date optional list record)

/-- The fields of a customer or a business; only a customer has to have a name. -/
def Party.fields (named : Bool) : List (RecordField Party) :=
  [field "name" named text fun name p => { p with name },
    field "email" false (optional text) fun email p => { p with email },
    field "phone" false (optional text) fun phone p => { p with phone },
    field "address" false (optional text) fun address p => { p with address }]

/-- The fields of a job. -/
def Job.fields : List (RecordField Job) :=
  [field "title" true text fun title j => { j with title },
    field "description" false (optional text) fun description j => { j with description },
    field "price" false float fun price j => { j with price },
    field "status" false (optional text) fun status j => { j with status },
    field "scheduledDate" false (optional date) fun scheduledDate j => { j with scheduledDate }]

/-- The fields of a project. -/
def Project.fields : List (RecordField Project) :=
  [field "name" true text fun name p => { p with name },
    field "description" false (optional text) fun description p => { p with description },
    field "status" false (optional text) fun status p => { p with status },
    field "budget" false (optional float) fun budget p => { p with budget },
    field "startDate" false (optional date) fun startDate p => { p with startDate },
    field "endDate" false (optional date) fun endDate p => { p with endDate },
    field "jobs" false (list (record "Job" Job.fields {})) fun jobs p => { p with jobs }]

/-- The fields of the invoice proper. -/
def Header.fields : List (RecordField Header) :=
  [field "invoiceNumber" true text fun invoiceNumber h => { h with invoiceNumber },
    field "issueDate" true date fun issueDate h => { h with issueDate },
    field "dueDate" false (optional date) fun dueDate h => { h with dueDate },
    field "status" false (optional text) fun status h => { h with status },
    field "subtotalAmount" false float fun subtotalAmount h => { h with subtotalAmount },
    field "taxAmount" false float fun taxAmount h => { h with taxAmount },
    field "totalAmount" false float fun totalAmount h => { h with totalAmount },
    field "notes" false (optional text) fun notes h => { h with notes }]

/-- What the invoice proper starts out as; its number and date are always read. -/
def Header.blank : Header := { invoiceNumber := "", issueDate := ⟨1, 1, 1, by decide⟩ }

/-- Reads a customer. -/
def Party.customerReader : Reader Party := record "Customer" (Party.fields true) {}

/-- Reads a business. -/
def Party.businessReader : Reader Party := record "Business" (Party.fields false) {}

/-- The fields of an invoice document. -/
def Document.fields : List (RecordField Document) :=
  [field "invoice" true (record "Invoice" Header.fields .blank) fun invoice d => { d with invoice },
    field "customer" true Party.customerReader fun customer d => { d with customer },
    field "business" false Party.businessReader fun business d => { d with business },
    field "projects" false (list (record "Project" Project.fields {})) fun projects d =>
      { d with projects }]

/-- Reads an invoice document. -/
def Document.reader : Reader Document :=
  record "InvoiceDocument" Document.fields { invoice := .blank, customer := {} }

/-- The invoice document that a JSON text holds. -/
def Document.ofText (text : String) : Except Json.Problem Document := reader.ofText text

end Stencil.Invoice
