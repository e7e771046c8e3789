import Stencil.Proofs.Calendar.Reprint

/-! # Lists as text

The text of a list joins plain texts of its items, and a plain text knows nothing of the options: the
dates in a list have the ISO form, however deep they lie and whatever date format is chosen
(`format_list`). A date on its own has the chosen format. So a list is not written like its items one
by one, unless the chosen format happens to agree with the ISO form on the dates among them.
-/

namespace Stencil

/-- The options with the ISO form for dates. -/
def Options.withIsoDates (options : Options) : Options := { options with dateFormat := "%Y-%m-%d" }

namespace Value

theorem plainItems_eq_map (items : List Value) : plainItems items = items.map plain := by
  induction items with
  | nil => rfl
  | cons item rest ih => rw [plainItems, ih, List.map_cons]

/-- No hint fits a list. -/
theorem format_list_eq_plain (options : Options) (hint : Hint) (items : List Value) :
    (list items).format options hint = (list items).plain := by
  cases hint <;> rfl

/-- With the ISO form for dates, the options do not matter to a plain text. -/
theorem format_withIsoDates (options : Options) (value : Value) :
    value.format options.withIsoDates .plain = value.plain := by
  cases value with
  | date day => exact day.format_default
  | _ => rfl

/-- A list is written as its items are with the ISO form for dates, whatever the options and the hint
are. With the options themselves the items have other texts as soon as one of them is a date that the
chosen format does not write in the ISO form, and then only. -/
theorem format_list (options : Options) (hint : Hint) (items : List Value) :
    (∀ others : Options, (list items).format options hint =
      String.intercalate ", " (items.map (format others.withIsoDates .plain))) ∧
    (items.map (format options.withIsoDates .plain) = items.map (format options .plain) ↔
      ∀ day, date day ∈ items → day.format options.dateFormat = day.iso) := by
  constructor
  · intro others
    have same : items.map (format others.withIsoDates .plain) = plainItems items := by
      rw [plainItems_eq_map]
      exact List.map_congr_left fun item _ => format_withIsoDates others item
    rw [format_list_eq_plain, plain, same]
  · rw [List.map_inj_left]
    constructor
    · intro each day member
      have agree := each (date day) member
      rw [format_withIsoDates] at agree
      exact agree.symm
    · intro agree item member
      rw [format_withIsoDates]
      cases item with
      | date day => exact (agree day member).symm
      | _ => rfl

/-- A list of a single date is not written in the chosen format. -/
theorem not_forall_format_list_items : ¬ ∀ (options : Options) (items : List Value),
    (list items).format options .plain =
      String.intercalate ", " (items.map (format options .plain)) := by
  intro all
  have same := all { dateFormat := "%d.%m.%Y" } [date ⟨2024, 3, 5, by decide⟩]
  exact absurd same (by decide +kernel)

end Value

end Stencil
