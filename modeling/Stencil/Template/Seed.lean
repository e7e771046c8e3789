import Stencil.Template.Basic

/-! # Built-in templates

A default template for each of the five kinds. Their directives name only what the context of an
invoice document always has, so rendering one never warns.
-/

namespace Stencil

namespace Seed

/-- The invoice: parties, a table of projects with their jobs, and totals. -/
def invoice : String := String.join [
  "<div class=\"document invoice\">\n",
  "  <header>\n",
  "    <h1>\x7b\x7bbusiness.name\x7d\x7d</h1>\n",
  "    <p>\x7b\x7bbusiness.address\x7d\x7d<br>\x7b\x7bbusiness.phone\x7d\x7d &middot; \x7b\x7bbusiness.email\x7d\x7d</p>\n",
  "  </header>\n",
  "  <section class=\"meta\">\n",
  "    <h2>Invoice \x7b\x7binvoice.invoiceNumber\x7d\x7d</h2>\n",
  "    <p>Issued: \x7b\x7binvoice.issueDate\x7d\x7d<br>Due: \x7b\x7binvoice.dueDate\x7d\x7d</p>\n",
  "  </section>\n",
  "  <section class=\"bill-to\">\n",
  "    <h3>Bill to</h3>\n",
  "    <p>\x7b\x7bcustomer.name\x7d\x7d<br>\x7b\x7bcustomer.address\x7d\x7d<br>\x7b\x7bcustomer.email\x7d\x7d</p>\n",
  "  </section>\n",
  "  <table class=\"items\">\n",
  "    <thead><tr><th>Description</th><th>Amount</th></tr></thead>\n",
  "    <tbody>\n",
  "    \x7b\x7b#each projects\x7d\x7d\n",
  "      <tr class=\"project\"><td colspan=\"2\"><strong>\x7b\x7bproject.name\x7d\x7d</strong></td></tr>\n",
  "      \x7b\x7b#each jobs\x7d\x7d\n",
  "      <tr><td>\x7b\x7bjob.title\x7d\x7d</td><td>\x7b\x7bjob.price\x7d\x7d</td></tr>\n",
  "      \x7b\x7b/each\x7d\x7d\n",
  "    \x7b\x7b/each\x7d\x7d\n",
  "    </tbody>\n",
  "  </table>\n",
  "  <section class=\"totals\">\n",
  "    <p>Subtotal: \x7b\x7binvoice.subtotalAmount\x7d\x7d</p>\n",
  "    <p>Tax: \x7b\x7binvoice.taxAmount\x7d\x7d</p>\n",
  "    <p><strong>Total: \x7b\x7binvoice.totalAmount\x7d\x7d</strong></p>\n",
  "  </section>\n",
  "  <footer><p>\x7b\x7binvoice.notes\x7d\x7d</p></footer>\n",
  "</div>\n"]

/-- The proposal: a section for each project with a list of its jobs. -/
def proposal : String := String.join [
  "<div class=\"document proposal\">\n",
  "  <h1>Proposal for \x7b\x7bcustomer.name\x7d\x7d</h1>\n",
  "  <p>Prepared by \x7b\x7bbusiness.name\x7d\x7d on \x7b\x7bissueDate\x7d\x7d.</p>\n",
  "  \x7b\x7b#each projects\x7d\x7d\n",
  "  <section class=\"project\">\n",
  "    <h2>\x7b\x7bproject.name\x7d\x7d</h2>\n",
  "    <p>\x7b\x7bproject.description\x7d\x7d</p>\n",
  "    <p>Proposed start: \x7b\x7bproject.startDate\x7d\x7d &middot; Budget: \x7b\x7bproject.budget\x7d\x7d</p>\n",
  "    <ul>\n",
  "      \x7b\x7b#each jobs\x7d\x7d\n",
  "      <li>\x7b\x7bjob.title\x7d\x7d: \x7b\x7bjob.description\x7d\x7d (\x7b\x7bjob.price\x7d\x7d)</li>\n",
  "      \x7b\x7b/each\x7d\x7d\n",
  "    </ul>\n",
  "  </section>\n",
  "  \x7b\x7b/each\x7d\x7d\n",
  "  <p>Proposal total: \x7b\x7btotalAmount\x7d\x7d</p>\n",
  "</div>\n"]

/-- The contract: the scope of work by projects and jobs, and places to sign. -/
def contract : String := String.join [
  "<div class=\"document contract\">\n",
  "  <h1>Service Agreement</h1>\n",
  "  <p>This agreement is made on \x7b\x7bissueDate\x7d\x7d between \x7b\x7bbusiness.name\x7d\x7d (\"the Contractor\")\n",
  "  and \x7b\x7bcustomer.name\x7d\x7d of \x7b\x7bcustomer.address\x7d\x7d (\"the Client\").</p>\n",
  "  <h2>Scope of work</h2>\n",
  "  <ol>\n",
  "    \x7b\x7b#each projects\x7d\x7d\n",
  "    <li>\x7b\x7bproject.name\x7d\x7d, from \x7b\x7bproject.startDate\x7d\x7d to \x7b\x7bproject.endDate\x7d\x7d:\n",
  "      <ul>\n",
  "        \x7b\x7b#each jobs\x7d\x7d\n",
  "        <li>\x7b\x7bjob.title\x7d\x7d for \x7b\x7bjob.price\x7d\x7d</li>\n",
  "        \x7b\x7b/each\x7d\x7d\n",
  "      </ul>\n",
  "    </li>\n",
  "    \x7b\x7b/each\x7d\x7d\n",
  "  </ol>\n",
  "  <p>The Client agrees to pay \x7b\x7btotalAmount\x7d\x7d by \x7b\x7bdueDate\x7d\x7d.</p>\n",
  "  <p>Signed: ____________________ (\x7b\x7bbusiness.name\x7d\x7d)</p>\n",
  "  <p>Signed: ____________________ (\x7b\x7bcustomer.name\x7d\x7d)</p>\n",
  "</div>\n"]

/-- The estimate: a table of jobs for each project with its total. -/
def estimate : String := String.join [
  "<div class=\"document estimate\">\n",
  "  <h1>Estimate \x7b\x7binvoiceNumber\x7d\x7d</h1>\n",
  "  <p>For \x7b\x7bcustomer.name\x7d\x7d, valid until \x7b\x7bdueDate\x7d\x7d.</p>\n",
  "  \x7b\x7b#each projects\x7d\x7d\n",
  "  <h2>\x7b\x7bproject.name\x7d\x7d</h2>\n",
  "  <table>\n",
  "    \x7b\x7b#each jobs\x7d\x7d\n",
  "    <tr><td>\x7b\x7bjob.title\x7d\x7d</td><td>\x7b\x7bjob.price\x7d\x7d</td></tr>\n",
  "    \x7b\x7b/each\x7d\x7d\n",
  "    <tr class=\"subtotal\"><td>Project total</td><td>\x7b\x7bproject.jobsTotal\x7d\x7d</td></tr>\n",
  "  </table>\n",
  "  \x7b\x7b/each\x7d\x7d\n",
  "  <p>Estimated total: \x7b\x7btotalAmount\x7d\x7d</p>\n",
  "</div>\n"]

/-- The receipt: who paid what. -/
def receipt : String := String.join [
  "<div class=\"document receipt\">\n",
  "  <h1>Receipt</h1>\n",
  "  <p>\x7b\x7bbusiness.name\x7d\x7d received \x7b\x7btotalAmount\x7d\x7d from \x7b\x7bcustomer.name\x7d\x7d\n",
  "  for invoice \x7b\x7binvoiceNumber\x7d\x7d issued \x7b\x7bissueDate\x7d\x7d.</p>\n",
  "  <p>Status: \x7b\x7bstatus\x7d\x7d</p>\n",
  "</div>\n"]

end Seed

namespace Kind

/-- The body of the built-in template of a kind. -/
def seedBody? : Kind → Option String
  | invoice => some Seed.invoice
  | proposal => some Seed.proposal
  | contract => some Seed.contract
  | estimate => some Seed.estimate
  | receipt => some Seed.receipt
  | other _ => none

/-- The identifier of the built-in template of a kind. -/
def seedId (kind : Kind) : Template.Id := .ofName ("seed." ++ kind.name)

/-- The built-in template of a kind. -/
def seed? (kind : Kind) : Option Template :=
  kind.seedBody?.map fun body =>
    { id := kind.seedId, kind, title := "Standard " ++ kind.name, body, isDefault := true }

/-- All built-in templates. -/
def seeds : List Template := builtIn.filterMap seed?

end Kind

end Stencil
