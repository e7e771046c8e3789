import Mathlib.Data.List.Basic
import Stencil.Calendar.Pattern

/-! # What date formats are written in

A format that is accepted is written in parts: plain characters, and conversions behind a percent
sign, with a padding where they take one (`isValidFormat_iff_exists_parts`). Whether a date can be
written with it is another question, and one about the parts alone: it can exactly if none of them
asks for a time of day (`isSome_format?_iff_parts`). So a format is accepted that no date can be
written with.
-/

namespace Stencil

namespace Calendar

/-- The character that asks for a padding. -/
def Padding.mark : Padding → Char
  | zero => '0'
  | space => '_'
  | none => '-'

/-- A part of a date format: a character for itself, or a conversion. Only some conversions can have a
padding. -/
inductive Part where
  | plain (c : Char) (solid : c ≠ '%')
  | conversion (padding : Option Padding) (text : String) (items : List Item)
      (known : (text, items) ∈ Item.conversions) (fits : .unknown ∉ Item.padded padding items)

namespace Part

/-- A part as it is written. -/
def source : Part → List Char
  | plain c _ => [c]
  | conversion padding text _ _ _ => '%' :: ((padding.map Padding.mark).toList ++ text.toList)

/-- The items that a part stands for. -/
def items : Part → List Item
  | plain c _ => [.literal c]
  | conversion padding _ items _ _ => Item.padded padding items

end Part

namespace Item

/-- Whether an item is something that only a time of day has. -/
def isClock : Item → Bool
  | clock _ => true
  | _ => false

end Item

/-- Whether a part asks for a time of day. -/
def Part.asksForTime (part : Part) : Bool := part.items.any Item.isClock

namespace Item

/-! ## Reading a format -/

/-- No conversion begins another. -/
theorem eq_of_isPrefixOf : ∀ one ∈ conversions, ∀ other ∈ conversions,
    one.1.toList.isPrefixOf other.1.toList → one = other := by
  decide +kernel

/-- A conversion does not begin like a padding. -/
theorem exists_cons_of_mem_conversions {text : String} {items : List Item}
    (known : (text, items) ∈ conversions) :
    ∃ first more, text.toList = first :: more ∧ first ∉ ['-', '_', '0'] := by
  have checked : ∀ one ∈ conversions, one.1.toList.head?.any (· ∉ ['-', '_', '0']) = true := by
    decide +kernel
  have begins := checked _ known
  cases split : text.toList with
  | nil => simp [split] at begins
  | cons first more => exact ⟨first, more, rfl, by simpa [split] using begins⟩

/-- The conversion that a text begins with is found, whatever follows. -/
theorem find?_conversion_append {text : String} {items : List Item}
    (known : (text, items) ∈ conversions) (rest : List Char) :
    conversions.find? (fun conversion => conversion.1.toList.isPrefixOf (text.toList ++ rest)) =
      some (text, items) := by
  have here : text.toList <+: text.toList ++ rest := List.prefix_append _ _
  cases found : conversions.find? fun conversion =>
      conversion.1.toList.isPrefixOf (text.toList ++ rest) with
  | none => exact absurd (List.isPrefixOf_iff_prefix.mpr here) (List.find?_eq_none.mp found _ known)
  | some other =>
    have member := List.mem_of_find?_eq_some found
    have begins : other.1.toList <+: text.toList ++ rest := by simpa using List.find?_some found
    rcases List.prefix_or_prefix_of_prefix begins here with inside | inside
    · rw [eq_of_isPrefixOf other member _ known (List.isPrefixOf_iff_prefix.mpr inside)]
    · rw [eq_of_isPrefixOf _ known other member (List.isPrefixOf_iff_prefix.mpr inside)]

theorem takePadding_source (padding : Option Padding) {text : String} {items : List Item}
    (known : (text, items) ∈ conversions) (rest : List Char) :
    takePadding ((padding.map Padding.mark).toList ++ text.toList ++ rest) =
      (padding, text.toList ++ rest) := by
  cases padding with
  | some padding => cases padding <;> rfl
  | none =>
    obtain ⟨first, more, split, other⟩ := exists_cons_of_mem_conversions known
    change takePadding (text.toList ++ rest) = _
    rw [split, List.cons_append]
    unfold takePadding
    split <;> simp_all

/-- A part is read as the items that it stands for, whatever follows. -/
theorem ofChars_source_append (part : Part) (rest : List Char) :
    ofChars (part.source ++ rest) = part.items ++ ofChars rest := by
  cases part with
  | plain c solid =>
    rw [Part.source, List.singleton_append, ofChars, if_neg solid]
    rfl
  | conversion padding text items known fits =>
    rw [Part.source, List.cons_append, ofChars, if_pos rfl]
    simp only [takePadding_source padding known, find?_conversion_append known]
    rw [← String.length_toList, List.drop_left]
    rfl

theorem ofChars_parts (parts : List Part) :
    ofChars (parts.flatMap Part.source) = parts.flatMap Part.items := by
  induction parts with
  | nil => simp [ofChars]
  | cons part rest ih => rw [List.flatMap_cons, List.flatMap_cons, ofChars_source_append, ih]

theorem mark_takePadding (chars : List Char) :
    ((takePadding chars).1.map Padding.mark).toList ++ (takePadding chars).2 = chars := by
  unfold takePadding
  split <;> rfl

/-- A format without a conversion that does not exist is written in parts. -/
theorem exists_parts {chars : List Char} (exist : .unknown ∉ ofChars chars) :
    ∃ parts : List Part, chars = parts.flatMap Part.source := by
  fun_induction ofChars chars with
  | case1 => exact ⟨[], rfl⟩
  | case2 rest body text items found ih =>
    simp only [List.mem_append, not_or] at exist
    obtain ⟨fits, exist⟩ := exist
    have known := List.mem_of_find?_eq_some found
    have begins : text.toList <+: body := by simpa using List.find?_some found
    obtain ⟨parts, same⟩ := ih exist
    refine ⟨.conversion (takePadding rest).1 text items known fits :: parts, ?_⟩
    rw [List.flatMap_cons, ← same, Part.source, List.cons_append, List.append_assoc,
      ← String.length_toList, List.prefix_iff_eq_append.mp begins, mark_takePadding]
  | case3 => exact absurd List.mem_cons_self exist
  | case4 c rest solid ih =>
    obtain ⟨parts, same⟩ := ih fun inside => exist (List.mem_cons_of_mem _ inside)
    exact ⟨.plain c solid :: parts, by rw [List.flatMap_cons, ← same]; rfl⟩

/-! ## Writing a date -/

theorem isSome_text?_iff (date : Date) (item : Item) :
    (item.text? date).isSome ↔ item ≠ .unknown ∧ item.isClock = false := by
  cases item <;> simp [text?, isClock]

/-- All items have a text, or the date has none. -/
theorem isSome_mapM_text?_iff (date : Date) (items : List Item) :
    (items.mapM (text? date)).isSome ↔ ∀ item ∈ items, (item.text? date).isSome := by
  induction items with
  | nil => simp
  | cons item rest ih =>
    rw [List.mapM_cons, List.forall_mem_cons, ← ih]
    cases item.text? date <;> cases rest.mapM (text? date) <;> simp

end Item

/-- The items of a part exist. -/
theorem Part.unknown_notMem_items (part : Part) : .unknown ∉ part.items := by
  cases part with
  | plain => simp [items]
  | conversion _ _ _ _ fits => exact fits

theorem Part.unknown_notMem_flatMap_items (parts : List Part) :
    .unknown ∉ parts.flatMap Part.items := by
  simp [Part.unknown_notMem_items]

theorem isValidFormat_iff (format : String) :
    isValidFormat format = true ↔ .unknown ∉ Item.ofChars format.toList := by
  simp only [isValidFormat, List.all_eq_true, decide_eq_true_eq]
  exact ⟨fun each inside => each _ inside rfl, fun none _ inside same => none (same ▸ inside)⟩

/-- A format is accepted exactly if it is written in parts. -/
theorem isValidFormat_iff_exists_parts (format : String) :
    isValidFormat format = true ↔
      ∃ parts : List Part, format.toList = parts.flatMap Part.source := by
  rw [isValidFormat_iff]
  constructor
  · exact Item.exists_parts
  · rintro ⟨parts, written⟩
    rw [written, Item.ofChars_parts]
    exact Part.unknown_notMem_flatMap_items parts

end Calendar

namespace Date

open Calendar

theorem isSome_format?_iff (date : Date) (format : String) :
    (date.format? format).isSome ↔
      ∀ item ∈ Item.ofChars format.toList, item ≠ .unknown ∧ item.isClock = false := by
  simp only [format?, Option.isSome_map, Item.isSome_mapM_text?_iff, Item.isSome_text?_iff]

/-- A date can be written with the parts of a format exactly if none of them asks for a time of
day. -/
theorem isSome_format?_iff_parts (date : Date) {format : String} {parts : List Part}
    (written : format.toList = parts.flatMap Part.source) :
    (date.format? format).isSome ↔ ∀ part ∈ parts, part.asksForTime = false := by
  rw [isSome_format?_iff, written, Item.ofChars_parts]
  constructor
  · intro each part inside
    simp only [Part.asksForTime, List.any_eq_false, Bool.not_eq_true]
    exact fun item here => (each item (List.mem_flatMap.mpr ⟨part, inside, here⟩)).2
  · intro free item inside
    obtain ⟨part, member, here⟩ := List.mem_flatMap.mp inside
    refine ⟨fun missing => part.unknown_notMem_items (missing ▸ here), ?_⟩
    simpa using List.any_eq_false.mp (free part member) item here

/-- What a format has to be for it to be accepted, and what it has to be for a date to be written
with it. A format is accepted exactly if it is written in parts. No other format is one that a date
is written with. With an accepted format every date is written, or none is: a part that asks for a
time of day puts the ISO form in its place. -/
theorem format?_settled (format : String) :
    (isValidFormat format = true ↔
      ∃ parts : List Part, format.toList = parts.flatMap Part.source) ∧
    ∀ date : Date,
      ((date.format? format).isSome → isValidFormat format = true) ∧
      ∀ parts : List Part, format.toList = parts.flatMap Part.source →
        ((date.format? format).isSome ↔ ∀ part ∈ parts, part.asksForTime = false) ∧
        ((∃ part ∈ parts, part.asksForTime = true) → date.format format = date.iso) := by
  refine ⟨isValidFormat_iff_exists_parts format, fun date => ⟨?_, ?_⟩⟩
  · intro made
    rw [isValidFormat_iff]
    exact fun inside => (date.isSome_format?_iff format |>.mp made _ inside).1 rfl
  · intro parts written
    have free := date.isSome_format?_iff_parts written
    refine ⟨free, ?_⟩
    rintro ⟨part, member, asks⟩
    have none : date.format? format = none := by
      rw [← Option.not_isSome_iff_eq_none, free]
      exact fun each => by simp [each part member] at asks
    rw [Date.format, none, Option.getD_none]

/-- The hour is accepted as a format, and no date can be written with it. -/
theorem not_forall_isSome_format? : ¬ ∀ (format : String) (date : Date),
    isValidFormat format = true → (date.format? format).isSome = true := by
  intro agree
  let hour : Part := .conversion none "H" [.clock true] (by decide) (by decide)
  have written : "%H".toList = [hour].flatMap Part.source := by decide
  have accepted := (isValidFormat_iff_exists_parts "%H").mpr ⟨[hour], written⟩
  have made := agree "%H" ⟨2024, 3, 5, by decide⟩ accepted
  rw [isSome_format?_iff_parts _ written] at made
  exact absurd (made hour List.mem_cons_self) (by decide)

end Date

end Stencil
