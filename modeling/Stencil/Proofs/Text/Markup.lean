import Stencil.Text.Entities

/-! # Text that opens no markup

A text is inert if no tag, no entity and no end of an attribute can begin in it that is not one of
the five entities written out. Inert texts can be put together (`Inert.append`), and whatever text
is made safe comes out inert (`inert_escapeMarkup`).
-/

namespace Stencil.Text.Entities

/-- The characters that begin or end a tag or the value of an attribute. -/
def marks : List Char := ['<', '>', '"', '\'']

/-- The five entities as they are written. -/
def spellings : List (List Char) :=
  ["&amp;", "&lt;", "&gt;", "&quot;", "&#39;"].map String.toList

/-- No mark is in the text, and each ampersand begins an entity. -/
structure Inert (chars : List Char) : Prop where
  markless : ∀ mark ∈ marks, mark ∉ chars
  ampersands : ∀ before behind, chars = before ++ '&' :: behind →
    ∃ spelling ∈ spellings, spelling <+: '&' :: behind

theorem Inert.nil : Inert [] := ⟨by simp, by simp⟩

theorem Inert.append {front back : List Char} (first : Inert front) (second : Inert back) :
    Inert (front ++ back) := by
  refine ⟨fun mark member present => ?_, fun before behind whole => ?_⟩
  · rcases List.mem_append.mp present with inFront | inBack
    · exact first.markless mark member inFront
    · exact second.markless mark member inBack
  · rcases List.append_eq_append_iff.mp whole with ⟨between, rfl, rest⟩ | ⟨between, split, rest⟩
    · exact second.ampersands between behind rest
    · cases between with
      | nil => exact second.ampersands [] behind rest.symm
      | cons c inFront =>
        obtain ⟨rfl, rfl⟩ := List.cons.inj rest
        obtain ⟨spelling, known, fits⟩ := first.ampersands before inFront split
        exact ⟨spelling, known, fits.trans (List.prefix_append ('&' :: inFront) back)⟩

/-- An ampersand begins a spelling and stands nowhere else in it, and there is no mark in it. -/
theorem shape_of_spellings : ∀ spelling ∈ spellings,
    spelling.head? = some '&' ∧ '&' ∉ spelling.tail ∧ marks.all (· ∉ spelling) := by
  decide +kernel

theorem inert_of_mem_spellings {spelling : List Char} (known : spelling ∈ spellings) :
    Inert spelling := by
  obtain ⟨begins, single, markless⟩ := shape_of_spellings spelling known
  obtain ⟨rest, rfl⟩ := List.head?_eq_some_iff.mp begins
  refine ⟨fun mark member => of_decide_eq_true (List.all_eq_true.mp markless mark member),
    fun before behind whole => ?_⟩
  cases before with
  | nil => exact ⟨_, known, whole ▸ List.prefix_rfl⟩
  | cons c before =>
    obtain ⟨-, rfl⟩ := List.cons.inj whole
    exact absurd (by simp) single

theorem inert_encodeChar (c : Char) : Inert (encodeChar c) := by
  unfold encodeChar
  cases written : entity? c with
  | some spelling =>
    have known : spelling ∈ spellings := by
      unfold entity? at written
      split at written <;> cases written <;> decide
    exact inert_of_mem_spellings known
  | none =>
    have special : c ∉ '&' :: marks := by
      intro member
      simp only [marks, List.mem_cons, List.not_mem_nil, or_false] at member
      rcases member with rfl | rfl | rfl | rfl | rfl <;> cases written
    rw [Option.getD_none]
    refine ⟨fun mark member present => ?_, fun before behind whole => ?_⟩
    · obtain rfl := List.mem_singleton.mp present
      exact special (List.mem_cons_of_mem _ member)
    · have ampersand : '&' ∈ [c] := by
        rw [whole]
        simp
      obtain rfl := List.mem_singleton.mp ampersand
      exact absurd (List.mem_cons_self ..) special

theorem inert_encode (chars : List Char) : Inert (encode chars) := by
  induction chars with
  | nil => exact .nil
  | cons c rest ih =>
    rw [encode_cons]
    exact (inert_encodeChar c).append ih

end Stencil.Text.Entities

namespace Stencil

theorem inert_escapeMarkup (text : String) : Text.Entities.Inert (escapeMarkup text).toList := by
  rw [escapeMarkup, String.toList_ofList]
  exact Text.Entities.inert_encode _

end Stencil
