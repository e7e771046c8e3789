import Mathlib.Logic.ExistsUnique
import Stencil.Proofs.Text.Markup

/-! # Entities read back

Reading entities goes over a text once, from left to right: where one of the five entities stands it is
taken for its character, and any other character for itself (`Decodes`). A text made safe is read back
as the text it was made from, whatever that looked like (`escapeMarkup_lossless`). The texts that come
out of this are exactly the inert ones, each out of one text.
-/

namespace Stencil.Text.Entities

/-- The five entities and the characters they stand for. -/
def meanings : List (List Char × Char) :=
  [("&amp;".toList, '&'), ("&lt;".toList, '<'), ("&gt;".toList, '>'), ("&quot;".toList, '"'),
    ("&#39;".toList, '\'')]

/-- A text with entities stands for another text. -/
inductive Decodes : List Char → List Char → Prop
  | nil : Decodes [] []
  | entity {c : Char} {spelling chars text : List Char} (meant : (spelling, c) ∈ meanings)
    (others : Decodes chars text) : Decodes (spelling ++ chars) (c :: text)
  | plain {c : Char} {chars text : List Char}
    (unwritten : ∀ spelling ∈ spellings, ¬ spelling <+: c :: chars)
    (others : Decodes chars text) : Decodes (c :: chars) (c :: text)

variable {c : Char} {chars text spelling : List Char}

theorem entity?_eq_some_iff : entity? c = some spelling ↔ (spelling, c) ∈ meanings := by
  constructor
  · intro written
    unfold entity? at written
    split at written <;> cases written <;> decide
  · have all : ∀ meaning ∈ meanings, entity? meaning.2 = some meaning.1 := by decide
    exact all (spelling, c)

theorem encodeChar_of_meant (meant : (spelling, c) ∈ meanings) : encodeChar c = spelling := by
  rw [encodeChar, entity?_eq_some_iff.2 meant, Option.getD_some]

/-- A character that is no mark and no ampersand is written as it is. -/
theorem encodeChar_of_not_mem (ordinary : c ∉ '&' :: marks) : encodeChar c = [c] := by
  have special : ∀ meaning ∈ meanings, meaning.2 ∈ '&' :: marks := by decide
  cases written : entity? c with
  | none => rw [encodeChar, written, Option.getD_none]
  | some spelling => exact absurd (special _ (entity?_eq_some_iff.1 written)) ordinary

/-! ## One pass from left to right -/

theorem decode_spelling_append (meant : (spelling, c) ∈ meanings) (rest : List Char) :
    decode (spelling ++ rest) = c :: decode rest := by
  rw [← encodeChar_of_meant meant]
  exact decode_encodeChar_append c rest

theorem decode_cons_of_unwritten (unwritten : ∀ spelling ∈ spellings, ¬ spelling <+: c :: chars) :
    decode (c :: chars) = c :: decode chars := by
  have impossible (spelling : List Char) {rest : List Char} (known : spelling ∈ spellings)
      (begins : c :: chars = spelling ++ rest) : False :=
    unwritten spelling known (begins ▸ List.prefix_append spelling rest)
  rw [decode]
  all_goals
    rintro rest rfl rfl
  · exact impossible "&amp;".toList (by decide) rfl
  · exact impossible "&lt;".toList (by decide) rfl
  · exact impossible "&gt;".toList (by decide) rfl
  · exact impossible "&quot;".toList (by decide) rfl
  · exact impossible "&#39;".toList (by decide) rfl

theorem decodes_decode (chars : List Char) : Decodes chars (decode chars) := by
  fun_induction decode chars with
  | case1 rest ih => exact .entity (by decide : ("&amp;".toList, '&') ∈ meanings) ih
  | case2 rest ih => exact .entity (by decide : ("&lt;".toList, '<') ∈ meanings) ih
  | case3 rest ih => exact .entity (by decide : ("&gt;".toList, '>') ∈ meanings) ih
  | case4 rest ih => exact .entity (by decide : ("&quot;".toList, '"') ∈ meanings) ih
  | case5 rest ih => exact .entity (by decide : ("&#39;".toList, '\'') ∈ meanings) ih
  | case6 c rest amp lt gt quot apos ih =>
    refine .plain ?_ ih
    rintro spelling known ⟨others, together⟩
    simp only [spellings, List.map_cons, List.map_nil, List.mem_cons, List.not_mem_nil,
      or_false] at known
    rcases known with rfl | rfl | rfl | rfl | rfl
    all_goals
      obtain ⟨rfl, rfl⟩ := List.cons.inj together
    · exact amp others rfl rfl
    · exact lt others rfl rfl
    · exact gt others rfl rfl
    · exact quot others rfl rfl
    · exact apos others rfl rfl
  | case7 => exact .nil

theorem decodes_iff : Decodes chars text ↔ decode chars = text := by
  constructor
  · intro decodes
    induction decodes with
    | nil => rfl
    | entity meant others ih => rw [decode_spelling_append meant, ih]
    | plain unwritten others ih => rw [decode_cons_of_unwritten unwritten, ih]
  · rintro rfl
    exact decodes_decode chars

/-! ## The texts that are written -/

theorem Inert.of_append {front back : List Char} (inert : Inert (front ++ back)) : Inert back := by
  refine ⟨fun mark member present => ?_, fun before behind whole => ?_⟩
  · exact inert.markless mark member (List.mem_append_right front present)
  · apply inert.ampersands (front ++ before) behind
    rw [whole, List.append_assoc]

theorem Inert.of_cons (inert : Inert (c :: chars)) : Inert chars := by
  rw [← List.singleton_append] at inert
  exact inert.of_append

/-- Where no entity begins in an inert text, an ordinary character stands. -/
theorem Inert.head_not_mem (inert : Inert (c :: chars))
    (unwritten : ∀ spelling ∈ spellings, ¬ spelling <+: c :: chars) : c ∉ '&' :: marks := by
  intro special
  rcases List.mem_cons.1 special with rfl | mark
  · obtain ⟨spelling, known, begins⟩ := inert.ampersands [] chars rfl
    exact unwritten spelling known begins
  · exact inert.markless c mark (List.mem_cons_self ..)

theorem encode_of_decodes (decodes : Decodes chars text) (inert : Inert chars) :
    encode text = chars := by
  induction decodes with
  | nil => rfl
  | entity meant others ih => rw [encode_cons, encodeChar_of_meant meant, ih inert.of_append]
  | plain unwritten others ih =>
    have ordinary := inert.head_not_mem unwritten
    rw [encode_cons, encodeChar_of_not_mem ordinary, ih (Inert.of_cons inert)]
    rfl

end Stencil.Text.Entities

namespace Stencil

open Text.Entities

theorem toList_escapeMarkup (text : String) : (escapeMarkup text).toList = encode text.toList := by
  rw [escapeMarkup, String.toList_ofList]

theorem decodes_escapeMarkup_iff {text : String} {chars : List Char} :
    Decodes (escapeMarkup text).toList chars ↔ chars = text.toList := by
  rw [decodes_iff, toList_escapeMarkup, decode_encode, eq_comm]

theorem escapeMarkup_append (front back : String) :
    escapeMarkup (front ++ back) = escapeMarkup front ++ escapeMarkup back := by
  rw [escapeMarkup, String.toList_append, encode_append, String.ofList_append]
  rfl

theorem exists_escapeMarkup_iff {markup : String} :
    (∃ text, escapeMarkup text = markup) ↔ Inert markup.toList := by
  constructor
  · rintro ⟨text, rfl⟩
    exact inert_escapeMarkup text
  · intro inert
    refine ⟨.ofList (decode markup.toList), ?_⟩
    have written := encode_of_decodes (decodes_decode markup.toList) inert
    rw [escapeMarkup, String.toList_ofList, written, String.ofList_toList]

/-- Reading the five entities is unambiguous in any text, and gives every text back from the form in
which it was made safe. So no two texts are made alike, and those made are the inert ones. -/
theorem escapeMarkup_lossless :
    (∀ markup, ∃! chars, Decodes markup chars) ∧
    (∀ text chars, Decodes (escapeMarkup text).toList chars ↔ chars = text.toList) ∧
    Function.Injective escapeMarkup ∧
    (∀ front back, escapeMarkup (front ++ back) = escapeMarkup front ++ escapeMarkup back) ∧
    ∀ markup, (∃ text, escapeMarkup text = markup) ↔ Inert markup.toList := by
  refine ⟨fun markup => ?_, fun text chars => decodes_escapeMarkup_iff, ?_, escapeMarkup_append,
    fun markup => exists_escapeMarkup_iff⟩
  · exact ⟨decode markup, decodes_decode markup, fun chars read => (decodes_iff.1 read).symm⟩
  · intro one other alike
    have read : Decodes (escapeMarkup other).toList one.toList := by
      rw [← alike]
      exact decodes_escapeMarkup_iff.2 rfl
    exact String.toList_inj.1 (decodes_escapeMarkup_iff.1 read)

/-- What already looks safe is data like any other. -/
example : escapeMarkup "&lt;" = "&amp;lt;" := by decide +kernel

end Stencil
