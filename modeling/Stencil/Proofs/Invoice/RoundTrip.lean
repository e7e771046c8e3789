import Stencil.Invoice.Reading
import Stencil.Invoice.Writing
import Stencil.Proofs.Json.Record

/-! # Invoice documents read back

An invoice document that is written as JSON and read again is the same document. Writer and reader
agree record by record: they name the fields alike and in one order, `null` is what stands for an
absent field on both sides, and no field that is read for a default is left out by the writer.
-/

namespace Stencil.Invoice

open Json (ofOption)
open Json.Reader

theorem reads_textJson (found : Option String) : Reads (optional text) (textJson found) found := by
  apply reads_optional
  · exact ⟨"a string", rfl⟩
  · intro s _
    exact reads_text s

theorem reads_dateJson (found : Option Date) :
    Reads (optional date) (ofOption dateJson found) found := by
  apply reads_optional
  · exact ⟨"a formatted date string", rfl⟩
  · intro day _
    exact reads_date day

theorem reads_floatJson {found : Option Float} (back : ∀ x ∈ found, ReadsBack x) :
    Reads (optional float) (ofOption floatJson found) found := by
  apply reads_optional
  · exact ⟨"f64", rfl⟩
  · intro x present
    exact reads_float (back x present)

theorem Party.reads_toJson (kind : String) (named : Bool) (party : Party) :
    Reads (record kind (Party.fields named) {}) party.toJson party := by
  apply reads_record
  · cases named <;> decide
  · exact .cons (reads_text party.name) (.cons (reads_textJson party.email)
      (.cons (reads_textJson party.phone) (.cons (reads_textJson party.address) (.nil _))))

theorem Job.reads_toJson {job : Job} (back : ReadsBack job.price) :
    Reads (record "Job" Job.fields {}) job.toJson job := by
  apply reads_record
  · decide
  · exact .cons (reads_text job.title) (.cons (reads_textJson job.description)
      (.cons (reads_float back) (.cons (reads_textJson job.status)
        (.cons (reads_dateJson job.scheduledDate) (.nil _)))))

/-- The doubles of a project: its budget and the prices of its jobs. -/
def Project.doubles (project : Project) : List Float :=
  project.budget.toList ++ project.jobs.map Job.price

theorem Project.reads_toJson {project : Project} (back : ∀ x ∈ project.doubles, ReadsBack x) :
    Reads (record "Project" Project.fields {}) project.toJson project := by
  have budget : ∀ x ∈ project.budget, ReadsBack x := by
    intro x present
    exact back x (List.mem_append_left _ (Option.mem_toList.mpr present))
  have price : ∀ job ∈ project.jobs, ReadsBack job.price := by
    intro job member
    exact back job.price (List.mem_append_right _ (List.mem_map_of_mem member))
  apply reads_record
  · decide
  · exact .cons (reads_text project.name) (.cons (reads_textJson project.description)
      (.cons (reads_textJson project.status) (.cons (reads_floatJson budget)
        (.cons (reads_dateJson project.startDate) (.cons (reads_dateJson project.endDate)
          (.cons (reads_list fun job member => Job.reads_toJson (price job member)) (.nil _)))))))

/-- The doubles of the invoice proper: its three amounts. -/
def Header.doubles (header : Header) : List Float :=
  [header.subtotalAmount, header.taxAmount, header.totalAmount]

theorem Header.reads_toJson {header : Header} (back : ∀ x ∈ header.doubles, ReadsBack x) :
    Reads (record "Invoice" Header.fields .blank) header.toJson header := by
  simp only [Header.doubles, List.forall_mem_cons] at back
  obtain ⟨subtotal, tax, total, -⟩ := back
  apply reads_record
  · decide
  · exact .cons (reads_text header.invoiceNumber) (.cons (reads_date header.issueDate)
      (.cons (reads_dateJson header.dueDate) (.cons (reads_textJson header.status)
        (.cons (reads_float subtotal) (.cons (reads_float tax) (.cons (reads_float total)
          (.cons (reads_textJson header.notes) (.nil _))))))))

/-- All doubles of a document. -/
def Document.doubles (document : Document) : List Float :=
  document.invoice.doubles ++ document.projects.flatMap Project.doubles

theorem Document.reads_toJson {document : Document}
    (back : ∀ x ∈ document.doubles, ReadsBack x) :
    Reads Document.reader document.toJson document := by
  have header : ∀ x ∈ document.invoice.doubles, ReadsBack x := by
    intro x member
    exact back x (List.mem_append_left _ member)
  have project : ∀ p ∈ document.projects, ∀ x ∈ p.doubles, ReadsBack x := by
    intro p member x double
    exact back x (List.mem_append_right _ (List.mem_flatMap.mpr ⟨p, member, double⟩))
  apply reads_record
  · decide
  · exact .cons (Header.reads_toJson header) (.cons (Party.reads_toJson _ _ document.customer)
      (.cons (Party.reads_toJson _ _ document.business)
        (.cons (reads_list fun p member => Project.reads_toJson (project p member)) (.nil _))))

/-- A document whose doubles are finite is read back from its JSON text. All that is assumed is that
each of these doubles is read back from the text of the double. -/
theorem Document.ofText_toJson (document : Document)
    (finite : ∀ x ∈ document.doubles, x.isFinite = true)
    (faithful : ∀ x ∈ document.doubles, x.isFinite = true → ReadsBack x) :
    Document.ofText document.toJson.toCompact = .ok document := by
  have back : ∀ x ∈ document.doubles, ReadsBack x := by
    intro x member
    exact faithful x member (finite x member)
  exact (Document.reads_toJson back).ofText

/-- A document with characters that are escaped and some beyond ASCII, a year below zero, one of five
digits and a leap day of the year zero, and optional fields that are present and absent. -/
def Document.rough : Document where
  invoice :=
    { invoiceNumber := "R\"1\\\n\x01", issueDate := ⟨-44, 3, 15, by decide⟩,
      dueDate := some ⟨12345, 12, 31, by decide⟩, subtotalAmount := 0.1, taxAmount := -0.0,
      totalAmount := 1e21, notes := some "" }
  customer := { name := "Zoë 🎈", email := some "null" }
  projects :=
    [{ name := "\u2028", status := some "\t", budget := some 12.5,
        startDate := some ⟨0, 2, 29, by decide⟩,
        jobs := [{ title := "é", price := 99.99, scheduledDate := some ⟨-262143, 1, 1, by decide⟩ },
          { title := "\x7f", description := some "/" }] },
      { name := "empty" }]

theorem Document.ofText_toJson_rough : (∀ x ∈ rough.doubles, x.isFinite = true) ∧
    (∀ x ∈ rough.doubles, x.isFinite = true → ReadsBack x) ∧
    Document.ofText rough.toJson.toCompact = .ok rough := by
  have finite : ∀ x ∈ rough.doubles, x.isFinite = true := by decide +kernel
  have faithful : ∀ x ∈ rough.doubles, x.isFinite = true → ReadsBack x := by decide +kernel
  exact ⟨finite, faithful, Document.ofText_toJson rough finite faithful⟩

end Stencil.Invoice
