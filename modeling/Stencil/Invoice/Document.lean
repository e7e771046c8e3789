import Stencil.Calendar.Date

/-! # Invoice documents

Everything a template can show for one invoice: the invoice itself, the customer, the business that
issues it, and the projects with their jobs.
-/

namespace Stencil.Invoice

/-- A customer or a business. -/
structure Party where
  name : String := ""
  email : Option String := none
  phone : Option String := none
  address : Option String := none
deriving BEq

/-- A job of a project. -/
structure Job where
  title : String := ""
  description : Option String := none
  price : Float := 0
  status : Option String := none
  scheduledDate : Option Date := none
deriving BEq

/-- A project with its jobs. -/
structure Project where
  name : String := ""
  description : Option String := none
  status : Option String := none
  budget : Option Float := none
  startDate : Option Date := none
  endDate : Option Date := none
  jobs : List Job := []
deriving BEq

/-- The invoice proper. -/
structure Header where
  invoiceNumber : String
  issueDate : Date
  dueDate : Option Date := none
  status : Option String := none
  subtotalAmount : Float := 0
  taxAmount : Float := 0
  totalAmount : Float := 0
  notes : Option String := none
deriving BEq

/-- An invoice with all that belongs to it. -/
structure Document where
  invoice : Header
  customer : Party
  business : Party := {}
  projects : List Project := []
deriving BEq

/-- The sum of the prices of a project's jobs, added up in order from minus zero. -/
def Project.jobsTotal (project : Project) : Float :=
  project.jobs.foldl (fun sum job => sum + job.price) (-0.0)

end Stencil.Invoice
