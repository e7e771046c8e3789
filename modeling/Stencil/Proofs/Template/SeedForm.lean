import Stencil.Proofs.Template.Form
import Stencil.Proofs.Template.Seed

/-! # What the built-in templates make of a document

For each built-in template the form that it fills in. The bodies are written like these forms, and
in every document the paths of a form lead to the data that it shows, whatever is absent there. So a
built-in template never warns, and its table has a block for each project and a row for each job
(`Kind.renderBody_seed`).
-/

namespace Stencil

/-- A token of a text shows a value by a path. -/
def Token.Fetches (body path : String) : Prop :=
  Content.directive (.value path) ∈ (scan body).tokens.map (·.content)

theorem Options.hintFor_of_unhinted {options : Options} {path : String}
    (unhinted : options.hintOverride? path = none) : options.hintFor path = Hint.infer path := by
  rw [hintFor, unhinted]
  rfl

namespace Form

/-- The invoice: the parties, a row for each job, and the totals. -/
def invoice : Form where
  before := [
    .words "<div class=\"document invoice\">\n  <header>\n    <h1>",
    .field "business.name" fun d => .text d.business.name,
    .words "</h1>\n    <p>",
    .field "business.address" fun d => .text d.business.address,
    .words "<br>",
    .field "business.phone" fun d => .text d.business.phone,
    .words " &middot; ",
    .field "business.email" fun d => .text d.business.email,
    .words "</p>\n  </header>\n  <section class=\"meta\">\n    <h2>Invoice ",
    .field "invoice.invoiceNumber" fun d => .text d.invoice.invoiceNumber,
    .words "</h2>\n    <p>Issued: ",
    .field "invoice.issueDate" fun d => .date d.invoice.issueDate,
    .words "<br>Due: ",
    .field "invoice.dueDate" fun d => .date d.invoice.dueDate,
    .words "</p>\n  </section>\n  <section class=\"bill-to\">\n    <h3>Bill to</h3>\n    <p>",
    .field "customer.name" fun d => .text d.customer.name,
    .words "<br>",
    .field "customer.address" fun d => .text d.customer.address,
    .words "<br>",
    .field "customer.email" fun d => .text d.customer.email,
    .words ("</p>\n  </section>\n  <table class=\"items\">\n" ++
      "    <thead><tr><th>Description</th><th>Amount</th></tr></thead>\n    <tbody>\n")]
  table := some {
    head := [
      .words "      <tr class=\"project\"><td colspan=\"2\"><strong>",
      .field "project.name" fun p => .text p.name,
      .words "</strong></td></tr>\n"]
    row := [
      .words "      <tr><td>",
      .field "job.title" fun j => .text j.title,
      .words "</td><td>",
      .field "job.price" fun j => .amount j.price,
      .words "</td></tr>\n"]
    foot := [] }
  after := [
    .words "    </tbody>\n  </table>\n  <section class=\"totals\">\n    <p>Subtotal: ",
    .field "invoice.subtotalAmount" fun d => .amount d.invoice.subtotalAmount,
    .words "</p>\n    <p>Tax: ",
    .field "invoice.taxAmount" fun d => .amount d.invoice.taxAmount,
    .words "</p>\n    <p><strong>Total: ",
    .field "invoice.totalAmount" fun d => .amount d.invoice.totalAmount,
    .words "</strong></p>\n  </section>\n  <footer><p>",
    .field "invoice.notes" fun d => .text d.invoice.notes,
    .words "</p></footer>\n</div>\n"]

/-- The proposal: a section for each project with a list of its jobs. -/
def proposal : Form where
  before := [
    .words "<div class=\"document proposal\">\n  <h1>Proposal for ",
    .field "customer.name" fun d => .text d.customer.name,
    .words "</h1>\n  <p>Prepared by ",
    .field "business.name" fun d => .text d.business.name,
    .words " on ",
    .field "issueDate" fun d => .date d.invoice.issueDate,
    .words ".</p>\n"]
  table := some {
    head := [
      .words "  <section class=\"project\">\n    <h2>",
      .field "project.name" fun p => .text p.name,
      .words "</h2>\n    <p>",
      .field "project.description" fun p => .text p.description,
      .words "</p>\n    <p>Proposed start: ",
      .field "project.startDate" fun p => .date p.startDate,
      .words " &middot; Budget: ",
      .field "project.budget" fun p => .amount p.budget,
      .words "</p>\n    <ul>\n"]
    row := [
      .words "      <li>",
      .field "job.title" fun j => .text j.title,
      .words ": ",
      .field "job.description" fun j => .text j.description,
      .words " (",
      .field "job.price" fun j => .amount j.price,
      .words ")</li>\n"]
    foot := [.words "    </ul>\n  </section>\n"] }
  after := [
    .words "  <p>Proposal total: ",
    .field "totalAmount" fun d => .amount d.invoice.totalAmount,
    .words "</p>\n</div>\n"]

/-- The contract: the scope of work by projects and jobs, and places to sign. -/
def contract : Form where
  before := [
    .words ("<div class=\"document contract\">\n  <h1>Service Agreement</h1>\n" ++
      "  <p>This agreement is made on "),
    .field "issueDate" fun d => .date d.invoice.issueDate,
    .words " between ",
    .field "business.name" fun d => .text d.business.name,
    .words " (\"the Contractor\")\n  and ",
    .field "customer.name" fun d => .text d.customer.name,
    .words " of ",
    .field "customer.address" fun d => .text d.customer.address,
    .words " (\"the Client\").</p>\n  <h2>Scope of work</h2>\n  <ol>\n"]
  table := some {
    head := [
      .words "    <li>",
      .field "project.name" fun p => .text p.name,
      .words ", from ",
      .field "project.startDate" fun p => .date p.startDate,
      .words " to ",
      .field "project.endDate" fun p => .date p.endDate,
      .words ":\n      <ul>\n"]
    row := [
      .words "        <li>",
      .field "job.title" fun j => .text j.title,
      .words " for ",
      .field "job.price" fun j => .amount j.price,
      .words "</li>\n"]
    foot := [.words "      </ul>\n    </li>\n"] }
  after := [
    .words "  </ol>\n  <p>The Client agrees to pay ",
    .field "totalAmount" fun d => .amount d.invoice.totalAmount,
    .words " by ",
    .field "dueDate" fun d => .date d.invoice.dueDate,
    .words ".</p>\n  <p>Signed: ____________________ (",
    .field "business.name" fun d => .text d.business.name,
    .words ")</p>\n  <p>Signed: ____________________ (",
    .field "customer.name" fun d => .text d.customer.name,
    .words ")</p>\n</div>\n"]

/-- The estimate: a table of jobs for each project with its total. -/
def estimate : Form where
  before := [
    .words "<div class=\"document estimate\">\n  <h1>Estimate ",
    .field "invoiceNumber" fun d => .text d.invoice.invoiceNumber,
    .words "</h1>\n  <p>For ",
    .field "customer.name" fun d => .text d.customer.name,
    .words ", valid until ",
    .field "dueDate" fun d => .date d.invoice.dueDate,
    .words ".</p>\n"]
  table := some {
    head := [
      .words "  <h2>",
      .field "project.name" fun p => .text p.name,
      .words "</h2>\n  <table>\n"]
    row := [
      .words "    <tr><td>",
      .field "job.title" fun j => .text j.title,
      .words "</td><td>",
      .field "job.price" fun j => .amount j.price,
      .words "</td></tr>\n"]
    foot := [
      .words "    <tr class=\"subtotal\"><td>Project total</td><td>",
      .field "project.jobsTotal" fun p => .amount p.jobsTotal,
      .words "</td></tr>\n  </table>\n"] }
  after := [
    .words "  <p>Estimated total: ",
    .field "totalAmount" fun d => .amount d.invoice.totalAmount,
    .words "</p>\n</div>\n"]

/-- The receipt: who paid what. -/
def receipt : Form where
  before := [
    .words "<div class=\"document receipt\">\n  <h1>Receipt</h1>\n  <p>",
    .field "business.name" fun d => .text d.business.name,
    .words " received ",
    .field "totalAmount" fun d => .amount d.invoice.totalAmount,
    .words " from ",
    .field "customer.name" fun d => .text d.customer.name,
    .words "\n  for invoice ",
    .field "invoiceNumber" fun d => .text d.invoice.invoiceNumber,
    .words " issued ",
    .field "issueDate" fun d => .date d.invoice.issueDate,
    .words ".</p>\n  <p>Status: ",
    .field "status" fun d => .text d.invoice.status,
    .words "</p>\n</div>\n"]

/-- A text is written like a form if its characters are scanned like that. -/
theorem writes_of_spelled {form : Form} {lines : List String} {chars : List Char}
    (spelled : Spelled lines chars)
    (contents : (Token.ofChars chars).map (·.content) = form.contents)
    (apart : Token.Apart (Token.ofChars chars))
    (quiet : (Piece.locate .start (Piece.scan chars)).filterMap Piece.warning? = []) :
    form.Writes (String.join lines) := by
  rw [← spelled.toList_join] at contents apart quiet
  exact ⟨contents, apart, quiet⟩

/-- Without other names given for them, the items of both loops are named by the singular. -/
theorem names_of_unnamed {options : Options} (projects : options.aliasOverride? "projects" = none)
    (jobs : options.aliasOverride? "jobs" = none) : Names options where
  projects := by
    change (options.aliasOverride? "projects").getD _ = _
    rw [projects]
    decide
  jobs := by
    change (options.aliasOverride? "jobs").getD _ = _
    rw [jobs]
    decide

theorem mem_contents_of_mem_row {form : Form} {table : Table} {content : Token.Content}
    (tabled : form.table = some table) (member : content ∈ table.row.map Part.content) :
    content ∈ form.contents := by
  have inside : content ∈ table.contents := by
    simp only [Table.contents, List.mem_append, List.mem_cons]
    tauto
  rw [contents, tabled]
  exact List.mem_append_right _ (List.mem_append_left _ inside)

namespace Part

variable {α : Type} {options : Options} {path : String} {source : α}

theorem fill_words (text : String) : (words text).fill options source = text :=
  rfl

/-- A text under a path that suggests nothing else is filled in as it is. -/
theorem fill_text (unhinted : options.hintOverride? path = none) (plain : Hint.infer path = .plain)
    (words : α → Option String) :
    (field path fun source => .text (words source)).fill options source =
      escapeMarkup ((words source).getD "") := by
  rw [fill, Options.hintFor_of_unhinted unhinted, plain, Datum.toValue]
  cases words source <;> rfl

/-- A number under a path that suggests an amount is filled in as one. -/
theorem fill_amount (unhinted : options.hintOverride? path = none)
    (currency : Hint.infer path = .currency) (number : α → Float) :
    (field path fun source => .amount (number source)).fill options source =
      escapeMarkup (Money.format options.currencySymbol (number source)) := by
  rw [fill, Options.hintFor_of_unhinted unhinted, currency]
  simp only [Datum.toValue, Invoice.floatValue, Value.format, Value.formatUndated, Value.cents?,
    Money.format]
  rfl

theorem fill_title (unhinted : options.hintOverride? "job.title" = none) (job : Invoice.Job) :
    (field "job.title" fun job : Invoice.Job => .text job.title).fill options job =
      escapeMarkup job.title :=
  fill_text unhinted (by decide +kernel) fun job : Invoice.Job => some job.title

theorem fill_description (unhinted : options.hintOverride? "job.description" = none)
    (job : Invoice.Job) :
    (field "job.description" fun job : Invoice.Job => .text job.description).fill options job =
      escapeMarkup (job.description.getD "") :=
  fill_text unhinted (by decide +kernel) Invoice.Job.description

theorem fill_price (unhinted : options.hintOverride? "job.price" = none) (job : Invoice.Job) :
    (field "job.price" fun job : Invoice.Job => .amount job.price).fill options job =
      escapeMarkup (Money.format options.currencySymbol job.price) :=
  fill_amount unhinted (by decide +kernel) Invoice.Job.price

end Part

end Form

namespace Kind

/-- The form that the built-in template of a kind fills in. -/
def form? : Kind → Option Form
  | invoice => some Form.invoice
  | proposal => some Form.proposal
  | contract => some Form.contract
  | estimate => some Form.estimate
  | receipt => some Form.receipt
  | other _ => none

/-- The row that the built-in template of a kind has for a job, with the title and the price of the
job. -/
def row (options : Options) (job : Invoice.Job) : Kind → String
  | invoice => "      <tr><td>" ++ escapeMarkup job.title ++ "</td><td>" ++
    escapeMarkup (Money.format options.currencySymbol job.price) ++ "</td></tr>\n"
  | proposal => "      <li>" ++ escapeMarkup job.title ++ ": " ++
    escapeMarkup (job.description.getD "") ++ " (" ++
    escapeMarkup (Money.format options.currencySymbol job.price) ++ ")</li>\n"
  | contract => "        <li>" ++ escapeMarkup job.title ++ " for " ++
    escapeMarkup (Money.format options.currencySymbol job.price) ++ "</li>\n"
  | estimate => "    <tr><td>" ++ escapeMarkup job.title ++ "</td><td>" ++
    escapeMarkup (Money.format options.currencySymbol job.price) ++ "</td></tr>\n"
  | receipt => ""
  | other _ => ""

variable {kind : Kind} {body : String} {form : Form}

theorem sound_form? (given : kind.form? = some form) : form.Sound := by
  cases kind with
  | other name => cases given
  | receipt =>
    cases given
    exact ⟨fun _ => rfl, nofun, fun _ => rfl⟩
  | _ =>
    cases given
    refine ⟨fun _ => rfl, fun _ table => ?_, fun _ => rfl⟩
    cases table
    exact ⟨fun _ => rfl, fun _ => rfl, fun _ => rfl⟩

theorem writes_form? (given : kind.form? = some form) (seeded : kind.seedBody? = some body) :
    form.Writes body := by
  cases kind with
  | other name => cases given
  | _ =>
    cases given
    cases seeded
    apply Form.writes_of_spelled
    · repeat apply Spelled.cons rfl
      exact .nil
    all_goals decide +kernel

theorem exists_form? (seeded : kind.seedBody? = some body) : ∃ form, kind.form? = some form := by
  cases kind with
  | other name => cases seeded
  | _ => exact ⟨_, rfl⟩

theorem exists_table (given : kind.form? = some form) (tabled : kind ≠ .receipt) :
    ∃ table, form.table = some table := by
  cases kind with
  | other name => cases given
  | receipt => exact absurd rfl tabled
  | _ =>
    cases given
    exact ⟨_, rfl⟩

/-- The row of a form filled in is the row of its kind, unless there are hints for its paths. -/
theorem fillAll_row {table : Form.Table} {options : Options} (given : kind.form? = some form)
    (tabled : form.table = some table)
    (unhinted : ∀ path, Token.Content.directive (.value path) ∈ table.row.map Form.Part.content →
      options.hintOverride? path = none) (job : Invoice.Job) :
    Form.fillAll options table.row job = kind.row options job := by
  cases kind with
  | other name => cases given
  | receipt =>
    cases given
    cases tabled
  | proposal =>
    cases given
    cases tabled
    have title := Form.Part.fill_title (unhinted "job.title" (by decide)) job
    have description := Form.Part.fill_description (unhinted "job.description" (by decide)) job
    have price := Form.Part.fill_price (unhinted "job.price" (by decide)) job
    simp [Form.fillAll, Form.Part.fill_words, row, title, description, price, String.append_assoc]
  | _ =>
    cases given
    cases tabled
    have title := Form.Part.fill_title (unhinted "job.title" (by decide)) job
    have price := Form.Part.fill_price (unhinted "job.price" (by decide)) job
    simp [Form.fillAll, Form.Part.fill_words, row, title, price, String.append_assoc]

/-- A built-in template renders with every document, and never warns, if the items of its loops keep
their names. Without hints for its paths its table has one block for each project in order, and in it
one row for each job of that project in order, with the job's own title and price. -/
theorem renderBody_seed (given : kind.seedBody? = some body) (engine : Engine)
    (projects : engine.options.aliasOverride? "projects" = none)
    (jobs : engine.options.aliasOverride? "jobs" = none) (document : Invoice.Document) :
    ∃ form, kind.form? = some form ∧
      engine.renderBody body document.toContext =
        .ok ⟨form.fill engine.options document, []⟩ ∧
      (kind ≠ .receipt →
        (∀ path, Token.Fetches body path → engine.options.hintOverride? path = none) →
        ∃ table, form.table = some table ∧
          form.fill engine.options document =
            Form.fillAll engine.options form.before (Form.cover document) ++
              String.join (document.projects.map fun project =>
                Form.fillAll engine.options table.head project ++
                  String.join (project.jobs.map fun job => kind.row engine.options job) ++
                  Form.fillAll engine.options table.foot project) ++
              Form.fillAll engine.options form.after (Form.cover document)) := by
  obtain ⟨form, formed⟩ := exists_form? given
  have writes : form.Writes body := writes_form? formed given
  have names := Form.names_of_unnamed projects jobs
  refine ⟨form, formed, writes.renderBody (sound_form? formed) engine names document, ?_⟩
  intro tabled unhinted
  obtain ⟨table, holds⟩ := exists_table formed tabled
  have rows : Form.fillAll engine.options table.row = fun job => kind.row engine.options job := by
    funext job
    apply fillAll_row formed holds
    intro path member
    apply unhinted
    rw [Token.Fetches, writes.contents]
    exact Form.mem_contents_of_mem_row holds member
  have blocks : table.block engine.options = fun project =>
      Form.fillAll engine.options table.head project ++
        String.join (project.jobs.map fun job => kind.row engine.options job) ++
        Form.fillAll engine.options table.foot project := by
    funext project
    rw [Form.Table.block, rows]
  refine ⟨table, holds, ?_⟩
  rw [Form.fill, holds, Option.elim, blocks, String.append_assoc]

end Kind

namespace Invoice

/-- A job whose description looks like a directive. -/
def tiling : Job where
  title := "Tiling"
  description := "\x7b\x7bjob.title\x7d\x7d"

/-- A job with a title that has to be escaped. -/
def grout : Job where
  title := "Grout <sealed>"
  price := 500

/-- A project with two jobs. -/
def kitchen : Project where
  name := "Kitchen"
  jobs := [tiling, grout]

/-- A project without jobs. -/
def porch : Project where
  name := "Porch"

/-- An invoice for two projects. -/
def house : Document where
  invoice := { invoiceNumber := "INV-2024-001", issueDate := ⟨2024, 3, 5, by decide⟩ }
  customer := { name := "Ann Lee" }
  projects := [kitchen, porch]

end Invoice

/-- Options with exceptions for names that the proposal does not have. -/
def Options.elsewhere : Options where
  currencySymbol := "$"
  hints := [("note", .currency)]
  aliases := [("items", "entry")]

namespace Kind

open Invoice

theorem renderBody_seed_house :
    ∃ form, proposal.form? = some form ∧
      Engine.renderBody { options := .elsewhere } Seed.proposal house.toContext =
        .ok ⟨form.fill .elsewhere house, []⟩ ∧
      ∃ table, form.table = some table ∧
        form.fill .elsewhere house =
          Form.fillAll .elsewhere form.before (Form.cover house) ++
            String.join [
              Form.fillAll .elsewhere table.head kitchen ++
                String.join [proposal.row .elsewhere tiling, proposal.row .elsewhere grout] ++
                Form.fillAll .elsewhere table.foot kitchen,
              Form.fillAll .elsewhere table.head porch ++ String.join [] ++
                Form.fillAll .elsewhere table.foot porch] ++
            Form.fillAll .elsewhere form.after (Form.cover house) := by
  have given : proposal.seedBody? = some Seed.proposal := rfl
  obtain ⟨form, formed, rendered, filled⟩ :=
    renderBody_seed given { options := .elsewhere } (by decide) (by decide) house
  refine ⟨form, formed, rendered, filled (by decide) ?_⟩
  intro path shown
  have unnamed : ¬ Token.Fetches Seed.proposal "note" := by
    rw [Token.Fetches, (writes_form? formed given).contents]
    cases formed
    decide
  have other : path ≠ "note" := by
    rintro rfl
    exact unnamed shown
  apply List.lookup_eq_none_iff.mpr
  simpa [Options.elsewhere] using other

end Kind

end Stencil
