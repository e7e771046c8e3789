import Stencil.Format
import Stencil.Proofs.Calendar.Iso
import Stencil.Proofs.Text.Cut

/-! # Dates printed and read again

Under the default format a date is printed in the ISO form, and whatever blanks are put around the
text, it is read as the same date. So a printed date can be fed back as a string, and comes out as it
went in.
-/

namespace Stencil

namespace Date

open Calendar Text

theorem items_default : Item.ofChars "%Y-%m-%d".toList =
    [.number .year .zero, .literal '-', .number .month .zero, .literal '-', .number .day .zero] := by
  decide +kernel

/-- The default format is the ISO form. -/
theorem format_default (date : Date) : date.format "%Y-%m-%d" = date.iso := by
  have made : date.format? "%Y-%m-%d" = some date.iso := by
    rw [format?, items_default]
    simp [Item.text?, Quantity.text, iso]
  rw [format, made, Option.getD_some]

theorem not_isBlank_of_mem_yearPlaces (year : Int) :
    ∀ c ∈ yearPlaces .zero year, isBlank c = false := by
  have digits : ∀ c ∈ yearDigits year, isBlank c = false :=
    fun c member => not_isBlank_of_isDigit (isDigit_of_mem_yearDigits year c member)
  rcases yearPlaces_zero year with ⟨-, -, plain⟩ | ⟨-, plus⟩ | ⟨-, minus⟩
  · rwa [plain]
  · rw [plus]
    exact List.forall_mem_cons.mpr ⟨by decide, digits⟩
  · rw [minus]
    exact List.forall_mem_cons.mpr ⟨by decide, digits⟩

/-- There are no blanks in the ISO form of a date. -/
theorem not_isBlank_of_mem_iso (date : Date) : ∀ c ∈ date.iso.toList, isBlank c = false := by
  obtain ⟨-, -, -, december, -, last⟩ := date.isDay
  have short : date.day ≤ 31 := Nat.le_trans last (daysIn_le date.year date.month)
  have month : ∀ c ∈ twoPlaces .zero date.month, isBlank c = false :=
    fun c member => not_isBlank_of_isDigit (isDigit_of_mem_twoPlaces (by omega) c member)
  have day : ∀ c ∈ twoPlaces .zero date.day, isBlank c = false :=
    fun c member => not_isBlank_of_isDigit (isDigit_of_mem_twoPlaces (by omega) c member)
  intro c member
  simp only [iso, String.toList_ofList, List.mem_append, List.mem_cons] at member
  rcases member with (inYear | rfl | inMonth) | rfl | inDay
  · exact not_isBlank_of_mem_yearPlaces date.year c inYear
  · decide
  · exact month c inMonth
  · decide
  · exact day c inDay

/-- A date is read from its ISO form, whatever blanks stand around it. -/
theorem ofText?_iso {front back : List Char} (blankFront : ∀ c ∈ front, isBlank c)
    (blankBack : ∀ c ∈ back, isBlank c) (date : Date) :
    ofText? (String.ofList front ++ date.iso ++ String.ofList back) = some date := by
  have some : date.iso.toList ≠ [] := by simp [iso]
  have trimmed : trim (String.ofList front ++ date.iso ++ String.ofList back).toList =
      date.iso.toList := by
    simp only [String.toList_append, String.toList_ofList]
    exact trim_append_of_solid blankFront blankBack some date.not_isBlank_of_mem_iso
  have read : readDate id date.iso.toList = .ok date := readDate_iso (fun _ _ => rfl) date
  rw [ofText?, trimmed, read]
  rfl

/-- A date printed under the default format is read as this date, whatever blanks are put around its
text. Under the default options a printed date can be fed back as a string, then: as a date it comes
out as the same text. -/
theorem ofText?_format_default {front back : List Char} (blankFront : ∀ c ∈ front, isBlank c)
    (blankBack : ∀ c ∈ back, isBlank c) (date : Date) :
    ofText? (String.ofList front ++ date.format "%Y-%m-%d" ++ String.ofList back) = some date ∧
    ∀ hint : Hint,
      let printed := (Value.date date).format {} hint
      (Value.string (String.ofList front ++ printed ++ String.ofList back)).format {} .date =
        printed := by
  have read := ofText?_iso blankFront blankBack date
  rw [← format_default] at read
  refine ⟨read, ?_⟩
  intro hint printed
  have again : (Value.string (String.ofList front ++ printed ++ String.ofList back)).text?.bind
      ofText? = some date := read
  rw [Value.format, Value.formatUndated, again]
  · rfl
  · simp

/-- The leap day of the year 4 before the year zero, with blanks around it, and the last day that
there is. -/
theorem ofText?_format_default_leap :
    let leap : Date := ⟨-4, 2, 29, by decide⟩
    let last : Date := ⟨262142, 12, 31, by decide⟩
    ofText? ("\u3000\t" ++ leap.format "%Y-%m-%d" ++ "\r\n\u0085") = some leap ∧
      ofText? ("" ++ last.format "%Y-%m-%d" ++ "") = some last ∧
      (Value.string ("" ++ (Value.date last).format {} .plain ++ "")).format {} .date =
        (Value.date last).format {} .plain := by
  intro leap last
  have front : ∀ c ∈ ['\u3000', '\t'], isBlank c := by simp [isBlank]
  have back : ∀ c ∈ ['\r', '\n', '\u0085'], isBlank c := by simp [isBlank]
  have none : ∀ c ∈ ([] : List Char), isBlank c := by simp
  exact ⟨(ofText?_format_default front back leap).1, (ofText?_format_default none none last).1,
    (ofText?_format_default none none last).2 .plain⟩

end Date

end Stencil
