import Mathlib.Data.List.Forall2
import Stencil.Json.Draft
import Stencil.Json.Writer
import Stencil.Proofs.Decimal.Digits
import Stencil.Proofs.Json.Numeral
import Stencil.Proofs.Json.Quoted

/-! # JSON text read back

What is written is read as one draft and no further: a text tells a draft if that is so whatever
follows, as long as a number at its end would end there. A list of texts between brackets is told
item by item, with or without whitespace between the items, so what a reader finds in a record
follows from what it finds in its members.
-/

namespace Stencil.Json

/-- A text tells a draft if the reader, with two steps for every character, finds this draft at the
start of the text and whatever follows behind it. -/
def Tells (chars : List Char) (draft : Draft) : Prop :=
  ∀ rest fuel, Numeral.EndsBefore rest → 2 * chars.length ≤ fuel →
    Draft.readValue fuel (chars ++ rest) = (draft, some rest)

/-- A member tells its name and what its value tells. -/
def TellsMember (member : String × Json) (entry : Option String × Draft) : Prop :=
  entry.1 = some member.1 ∧ Tells member.2.compact entry.2

/-- Nothing but whitespace. -/
def Blank (gap : List Char) : Prop := ∀ c ∈ gap, Draft.isSpace c = true

/-- A text of a name and a value, which may have whitespace in front, tells the two. -/
def TellsEntry (chars : List Char) (entry : Option String × Draft) : Prop :=
  ∃ gap name value, Blank gap ∧ chars = gap ++ (Quoted.encode name ++ ':' :: value) ∧
    entry.1 = some name ∧ Tells value entry.2

/-- The texts behind the first one, each with the comma in front, and the end of the list. -/
def listed (texts : List (List Char)) (ending : List Char) : List Char :=
  texts.flatMap (',' :: ·) ++ ending

variable {c : Char} {chars rest gap : List Char} {draft : Draft}

namespace Draft

theorem skipSpace_append_of_blank (blank : Blank gap) (rest : List Char) :
    skipSpace (gap ++ rest) = skipSpace rest :=
  List.dropWhile_append_of_pos blank

theorem skipSpace_cons_of_solid (solid : isSpace c = false) : skipSpace (c :: rest) = c :: rest := by
  simp [skipSpace, solid]

theorem isSpace_of_isDigit (digit : c.isDigit = true) : isSpace c = false := by
  obtain ⟨n, small, rfl⟩ := Decimal.exists_digitChar digit
  have solid : ∀ n < 10, isSpace (Decimal.digitChar n) = false := by decide
  exact solid n small

/-- What begins like a number is read as a number. -/
theorem readValue_of_numeric (start : c = '-' ∨ c.isDigit = true) (fuel : Nat) :
    readValue (fuel + 1) (c :: rest) = readNumber (c :: rest) := by
  have solid : isSpace c = false := by
    rcases start with rfl | digit
    · decide
    · exact isSpace_of_isDigit digit
  have other : ∀ mark ∈ ['n', 't', 'f', '"', '[', '\x7b'], c ≠ mark := by
    rintro _ named rfl
    rcases start with rfl | digit
    · revert named
      decide
    · obtain ⟨n, small, rfl⟩ := Decimal.exists_digitChar digit
      revert n
      decide
  rw [readValue, skipSpace_cons_of_solid solid]
  split
  case h_7 => rfl
  all_goals
    next same =>
    obtain ⟨rfl, -⟩ := List.cons.inj same
    exact absurd rfl (other _ (by decide))

/-- No value begins with the bracket that closes an array. -/
theorem readValue_of_bracket (bracket : skipSpace chars = ']' :: rest) (fuel : Nat) :
    readValue fuel chars = (.broken, none) := by
  cases fuel with
  | zero => exact readValue_zero chars
  | succ fuel =>
    rw [readValue, bracket]
    rfl

/-- The reader of a value goes past whitespace first. -/
theorem readValue_append_of_blank (blank : Blank gap) (rest : List Char) (fuel : Nat) :
    readValue fuel (gap ++ rest) = readValue fuel rest := by
  cases fuel with
  | zero => rw [readValue_zero, readValue_zero]
  | succ fuel => rw [readValue, readValue, skipSpace_append_of_blank blank]

theorem readItems_of_comma {fuel : Nat} (read : readValue fuel chars = (draft, some (',' :: rest))) :
    readItems (fuel + 1) chars = (draft :: (readItems fuel rest).1, (readItems fuel rest).2) := by
  rw [readItems, read]
  rfl

theorem readItems_of_bracket {fuel : Nat} (blank : Blank gap)
    (read : readValue fuel chars = (draft, some (gap ++ ']' :: rest))) :
    readItems (fuel + 1) chars = ([draft], some rest) := by
  rw [readItems, read]
  simp only [skipSpace_append_of_blank blank]
  rfl

theorem readMembers_append_of_blank (blank : Blank gap) (rest : List Char) (fuel : Nat) :
    readMembers fuel (gap ++ rest) = readMembers fuel rest := by
  cases fuel with
  | zero => rw [readMembers_zero, readMembers_zero]
  | succ fuel => rw [readMembers, readMembers, skipSpace_append_of_blank blank]

theorem readMembers_of_comma {fuel : Nat} {name : String}
    (read : readValue fuel chars = (draft, some (',' :: rest))) :
    readMembers (fuel + 1) (Quoted.encode name ++ ':' :: chars) =
      ((some name, draft) :: (readMembers fuel rest).1, (readMembers fuel rest).2) := by
  obtain ⟨quoted, written, key⟩ := Quoted.read?_encode_append name (':' :: chars)
  have colon : skipSpace (':' :: chars) = ':' :: chars := skipSpace_cons_of_solid (by decide)
  rw [written, readMembers, skipSpace_cons_of_solid (by decide)]
  simp only [key, colon, read]
  rfl

theorem readMembers_of_brace {fuel : Nat} {name : String} (blank : Blank gap)
    (read : readValue fuel chars = (draft, some (gap ++ '\x7d' :: rest))) :
    readMembers (fuel + 1) (Quoted.encode name ++ ':' :: chars) =
      ([(some name, draft)], some rest) := by
  obtain ⟨quoted, written, key⟩ := Quoted.read?_encode_append name (':' :: chars)
  have colon : skipSpace (':' :: chars) = ':' :: chars := skipSpace_cons_of_solid (by decide)
  rw [written, readMembers, skipSpace_cons_of_solid (by decide)]
  simp only [key, colon, read, skipSpace_append_of_blank blank]
  rfl

theorem readValue_bracket_cons {fuel : Nat} {items : List Draft}
    (solid : ∀ behind, skipSpace chars ≠ ']' :: behind)
    (read : readItems fuel chars = (items, some rest)) :
    readValue (fuel + 1) ('[' :: chars) = (.array items true, some rest) := by
  rw [readValue, skipSpace_cons_of_solid (by decide)]
  simp only [read]
  rfl

theorem readValue_brace_cons {fuel : Nat} {entries : List (Option String × Draft)}
    (quote : ∃ quoted, skipSpace chars = '"' :: quoted)
    (read : readMembers fuel chars = (entries, some rest)) :
    readValue (fuel + 1) ('\x7b' :: chars) = (.object entries true, some rest) := by
  obtain ⟨quoted, quote⟩ := quote
  rw [readValue, skipSpace_cons_of_solid (by decide)]
  simp only [quote, read]
  rfl

end Draft

theorem endsBefore_nil : Numeral.EndsBefore [] := by
  intro c member
  cases member

theorem endsBefore_cons (mark : c.isDigit = false ∧ c ∉ ['.', 'e', 'E', '+', '-']) :
    Numeral.EndsBefore (c :: rest) := by
  rintro _ ⟨⟩
  exact mark

theorem endsBefore_append_of_blank (blank : Blank gap)
    (mark : c.isDigit = false ∧ c ∉ ['.', 'e', 'E', '+', '-']) :
    Numeral.EndsBefore (gap ++ c :: rest) := by
  cases gap with
  | nil => exact endsBefore_cons mark
  | cons space gap =>
    have first : Draft.isSpace space = true := blank space List.mem_cons_self
    simp only [Draft.isSpace, Bool.or_eq_true, beq_iff_eq] at first
    apply endsBefore_cons
    rcases first with ((rfl | rfl) | rfl) | rfl <;> decide

theorem endsBefore_listed (blank : Blank gap)
    (mark : c.isDigit = false ∧ c ∉ ['.', 'e', 'E', '+', '-']) (texts : List (List Char))
    (tail : List Char) : Numeral.EndsBefore (listed texts (gap ++ [c]) ++ tail) := by
  cases texts with
  | nil =>
    rw [listed, List.flatMap_nil, List.nil_append, List.append_assoc]
    exact endsBefore_append_of_blank blank mark
  | cons => exact endsBefore_cons (by decide)

/-- A text that tells something is not empty, so the reader has a step left for it. -/
theorem tells_of_step (some : chars ≠ [])
    (step : ∀ rest fuel, Numeral.EndsBefore rest → 2 * chars.length ≤ fuel + 1 →
      Draft.readValue (fuel + 1) (chars ++ rest) = (draft, .some rest)) : Tells chars draft := by
  intro rest fuel ends enough
  cases fuel with
  | zero =>
    have positive := List.length_pos_iff.mpr some
    omega
  | succ fuel => exact step rest fuel ends enough

theorem Tells.solid (tells : Tells chars draft) (ends : Numeral.EndsBefore rest)
    (behind : List Char) : Draft.skipSpace (chars ++ rest) ≠ ']' :: behind := by
  intro bracket
  have read := tells rest _ ends (Nat.le_refl _)
  rw [Draft.readValue_of_bracket bracket] at read
  cases read

theorem tells_null : Tells (compact .null) .null := by
  apply tells_of_step
  · simp [compact]
  · intro rest fuel ends enough
    rfl

theorem tells_bool (b : Bool) : Tells (compact (.bool b)) (.bool b) := by
  cases b
  all_goals
    apply tells_of_step
    · simp [compact]
    · intro rest fuel ends enough
      rfl

theorem tells_string (s : String) : Tells (compact (.string s)) (.string (some s)) := by
  apply tells_of_step
  · simp [compact, Quoted.encode]
  · intro rest fuel ends enough
    obtain ⟨chars, written, read⟩ := Quoted.read?_encode_append s rest
    rw [compact, written, Draft.readValue, Draft.skipSpace_cons_of_solid (by decide)]
    simp [Draft.readString, read]

/-- A number tells its numeral if it has one. -/
theorem tells_number {n : Number} {numeral : Numeral}
    (read : Numeral.read? n.text = some (numeral, [])) :
    Tells (compact (.number n)) (.number numeral) := by
  obtain ⟨c, tail, text, start⟩ := Numeral.exists_cons_of_read? read
  apply tells_of_step
  · simp [compact, text]
  · intro rest fuel ends enough
    rw [compact, text, List.cons_append, Draft.readValue_of_numeric start, ← List.cons_append,
      ← text, Draft.readNumber, Numeral.read?_append ends read]
    rfl

/-- Whitespace in front of a value is nothing to the reader. -/
theorem Tells.spaced (blank : Blank gap) (tells : Tells chars draft) : Tells (gap ++ chars) draft := by
  intro rest fuel ends enough
  rw [List.length_append] at enough
  rw [List.append_assoc, Draft.readValue_append_of_blank blank]
  exact tells rest fuel ends (by omega)

/-! ## Lists between brackets -/

/-- The items of an array up to the bracket. -/
theorem readItems_listed (blank : Blank gap) {texts : List (List Char)} {drafts : List Draft}
    (others : List.Forall₂ Tells texts drafts) (first : Tells chars draft) (tail : List Char)
    {fuel : Nat} (enough : 2 * (chars.length + (listed texts (gap ++ [']'])).length) ≤ fuel) :
    Draft.readItems fuel (chars ++ (listed texts (gap ++ [']']) ++ tail)) =
      (draft :: drafts, some tail) := by
  induction others generalizing chars draft fuel with
  | nil =>
    simp only [listed, List.flatMap_nil, List.nil_append, List.length_append,
      List.length_singleton] at enough
    obtain ⟨fuel, rfl⟩ : ∃ n, fuel = n + 1 := ⟨fuel - 1, by omega⟩
    have bracket := first _ fuel (endsBefore_listed (c := ']') blank (by decide) [] tail) (by omega)
    simp only [listed, List.flatMap_nil, List.nil_append, List.append_assoc] at bracket ⊢
    exact Draft.readItems_of_bracket blank bracket
  | @cons next second texts drafts told others ih =>
    simp only [listed, List.flatMap_cons, List.length_append, List.length_cons] at enough ih
    obtain ⟨fuel, rfl⟩ : ∃ n, fuel = n + 1 := ⟨fuel - 1, by omega⟩
    have ends := endsBefore_listed (c := ']') blank (by decide) (next :: texts) tail
    have comma := first _ fuel ends (by omega)
    simp only [listed, List.flatMap_cons, List.cons_append, List.append_assoc] at comma ih ⊢
    rw [Draft.readItems_of_comma comma, ih told (by omega)]

/-- The members of an object up to the brace. -/
theorem readMembers_listed (blank : Blank gap) {texts : List (List Char)}
    {entry : Option String × Draft} {entries : List (Option String × Draft)}
    (others : List.Forall₂ TellsEntry texts entries) (first : TellsEntry chars entry)
    (tail : List Char) {fuel : Nat}
    (enough : 2 * (chars.length + (listed texts (gap ++ ['\x7d'])).length) ≤ fuel) :
    Draft.readMembers fuel (chars ++ (listed texts (gap ++ ['\x7d']) ++ tail)) =
      (entry :: entries, some tail) := by
  induction others generalizing chars entry fuel with
  | nil =>
    obtain ⟨space, name, value, skipped, rfl, key, told⟩ := first
    obtain ⟨_, draft⟩ := entry
    cases key
    simp only [listed, List.flatMap_nil, List.nil_append, List.length_append, List.length_cons,
      List.length_nil] at enough
    obtain ⟨fuel, rfl⟩ : ∃ n, fuel = n + 1 := ⟨fuel - 1, by omega⟩
    have brace := told _ fuel (endsBefore_listed (c := '\x7d') blank (by decide) [] tail) (by omega)
    simp only [listed, List.flatMap_nil, List.nil_append, List.append_assoc,
      List.cons_append] at brace ⊢
    rw [Draft.readMembers_append_of_blank skipped, Draft.readMembers_of_brace blank brace]
  | @cons next second texts entries read others ih =>
    obtain ⟨space, name, value, skipped, rfl, key, told⟩ := first
    obtain ⟨_, draft⟩ := entry
    cases key
    simp only [listed, List.flatMap_cons, List.length_append, List.length_cons,
      List.length_nil] at enough ih
    obtain ⟨fuel, rfl⟩ : ∃ n, fuel = n + 1 := ⟨fuel - 1, by omega⟩
    have ends := endsBefore_listed (c := '\x7d') blank (by decide) (next :: texts) tail
    have comma := told _ fuel ends (by omega)
    simp only [listed, List.flatMap_cons, List.append_assoc, List.cons_append] at comma ih ⊢
    rw [Draft.readMembers_append_of_blank skipped, Draft.readMembers_of_comma comma,
      ih read (by omega)]

theorem tells_empty_array : Tells ['[', ']'] (.array [] true) := by
  apply tells_of_step
  · simp
  · intro rest fuel ends enough
    rfl

theorem tells_empty_object : Tells ['\x7b', '\x7d'] (.object [] true) := by
  apply tells_of_step
  · simp
  · intro rest fuel ends enough
    rfl

/-- Texts between brackets tell an array of what they tell. -/
theorem tells_bracketed (blank : Blank gap) {texts : List (List Char)} {drafts : List Draft}
    (first : Tells chars draft) (others : List.Forall₂ Tells texts drafts) :
    Tells ('[' :: chars ++ listed texts (gap ++ [']'])) (.array (draft :: drafts) true) := by
  apply tells_of_step
  · simp
  · intro rest fuel ends enough
    simp only [List.cons_append, List.append_assoc, List.length_cons, List.length_append] at enough ⊢
    apply Draft.readValue_bracket_cons
    · exact first.solid (endsBefore_listed blank (by decide) texts rest)
    · exact readItems_listed blank others first rest (by omega)

/-- The text of a member begins with the quote of its name. -/
theorem TellsEntry.exists_quote {entry : Option String × Draft} (told : TellsEntry chars entry)
    (rest : List Char) : ∃ quoted, Draft.skipSpace (chars ++ rest) = '"' :: quoted := by
  obtain ⟨space, name, value, skipped, rfl, -⟩ := told
  obtain ⟨quoted, written, -⟩ := Quoted.read?_encode_append name (':' :: value ++ rest)
  refine ⟨quoted, ?_⟩
  rw [List.append_assoc, List.append_assoc, Draft.skipSpace_append_of_blank skipped, written]
  exact Draft.skipSpace_cons_of_solid (by decide)

/-- Texts between braces tell an object of what they tell. -/
theorem tells_braced (blank : Blank gap) {texts : List (List Char)} {entry : Option String × Draft}
    {entries : List (Option String × Draft)} (first : TellsEntry chars entry)
    (others : List.Forall₂ TellsEntry texts entries) :
    Tells ('\x7b' :: chars ++ listed texts (gap ++ ['\x7d'])) (.object (entry :: entries) true) := by
  apply tells_of_step
  · simp
  · intro rest fuel ends enough
    simp only [List.cons_append, List.append_assoc, List.length_cons, List.length_append] at enough ⊢
    apply Draft.readValue_brace_cons (first.exists_quote _)
    exact readMembers_listed blank others first rest (by omega)

/-! ## Text without whitespace -/

theorem compactItems_eq_listed (items : List Json) :
    compactItems items = listed (items.map compact) [']'] := by
  induction items with
  | nil => rfl
  | cons item items ih => simp [compactItems, ih, listed]

theorem compactMembers_eq_listed (members : List (String × Json)) :
    compactMembers members =
      listed (members.map fun member => Quoted.encode member.1 ++ ':' :: member.2.compact)
        ['\x7d'] := by
  induction members with
  | nil => rfl
  | cons member members ih => simp [compactMembers, ih, listed]

theorem blank_nil : Blank [] := by simp [Blank]

theorem TellsMember.tellsEntry {member : String × Json} {entry : Option String × Draft}
    (told : TellsMember member entry) :
    TellsEntry (Quoted.encode member.1 ++ ':' :: member.2.compact) entry :=
  ⟨[], member.1, member.2.compact, blank_nil, rfl, told⟩

/-- An array tells what its items tell. -/
theorem tells_array {items : List Json} {drafts : List Draft}
    (told : List.Forall₂ (fun item draft => Tells item.compact draft) items drafts) :
    Tells (compact (.array items)) (.array drafts true) := by
  cases told with
  | nil => exact tells_empty_array
  | cons first others =>
    rw [compact, compactItems_eq_listed]
    exact tells_bracketed blank_nil first (List.forall₂_map_left_iff.2 others)

/-- An object tells its names and what their values tell. -/
theorem tells_object {members : List (String × Json)} {entries : List (Option String × Draft)}
    (told : List.Forall₂ TellsMember members entries) :
    Tells (compact (.object members)) (.object entries true) := by
  cases told with
  | nil => exact tells_empty_object
  | @cons member entry members entries first others =>
    have behind : List.Forall₂ TellsEntry
        (members.map fun member => Quoted.encode member.1 ++ ':' :: member.2.compact) entries :=
      List.forall₂_map_left_iff.2 (others.imp fun _ _ => TellsMember.tellsEntry)
    have braced := tells_braced blank_nil first.tellsEntry behind
    rw [compact, compactMembers_eq_listed]
    simpa using braced

/-- A reader finds in the whole text the draft that the text tells. -/
theorem Draft.ofText_toCompact {json : Json} (told : Tells json.compact draft) :
    Draft.ofText json.toCompact = (draft, true) := by
  have read := told [] (2 * json.compact.length + 2) endsBefore_nil (by omega)
  rw [List.append_nil] at read
  simp [Draft.ofText, toCompact, read, skipSpace]

end Stencil.Json
