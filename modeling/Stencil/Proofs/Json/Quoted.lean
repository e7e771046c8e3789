import Stencil.Json.Quoted

/-! # Strings in JSON text read back

Every character of a text is written so that it is read as one step, whether it stands for itself or
is escaped. The closing quote is therefore the first one that is not part of a step, and the text
comes back as it was.
-/

namespace Stencil.Json.Quoted

variable {c letter : Char} {rest : List Char}

/-- The steps of a text with one step more in front. -/
def Step.before (step : Step) (read : Option (List Step × List Char)) :
    Option (List Step × List Char) :=
  read.map fun (steps, behind) => (step :: steps, behind)

theorem steps?_letter_cons (stands : escaped? letter = some c) (plain : letter ≠ 'u') :
    steps? ('\\' :: letter :: rest) = (Step.char c).before (steps? rest) := by
  rw [steps?]
  · rw [stands]
    cases steps? rest <;> rfl
  · intro a b c d behind same
    cases same
    exact absurd rfl plain

theorem steps?_code_cons {a b d e : Char} {n : Nat} (code : hexCode? a b d e = some n) :
    steps? ('\\' :: 'u' :: a :: b :: d :: e :: rest) = (Step.ofCode n).before (steps? rest) := by
  rw [steps?, code]
  cases steps? rest <;> rfl

theorem steps?_plain_cons (quote : c ≠ '"') (backslash : c ≠ '\\') (control : ¬ c.toNat < 0x20) :
    steps? (c :: rest) = (Step.char c).before (steps? rest) := by
  rw [steps?]
  · rw [if_neg control]
    rfl
  · exact quote
  · intro _ _ _ _ _ same _
    exact backslash same
  · intro _ _ same _
    exact backslash same

/-- The code of a control character in four hexadecimal digits. -/
theorem hexCode?_control : ∀ n < 0x20, hexCode? '0' '0' (hexDigit (n / 16)) (hexDigit (n % 16)) =
    some n := by
  decide

theorem Step.ofCode_control (control : c.toNat < 0x20) : Step.ofCode c.toNat = .char c := by
  have unpaired : ¬ (0xd800 ≤ c.toNat ∧ c.toNat < 0xe000) := by omega
  rw [Step.ofCode, if_neg unpaired, Char.ofNat_toNat]

/-- The characters that are written with a backslash, each with the letter behind it. -/
def lettered : List (Char × Char) :=
  [('"', '"'), ('\\', '\\'), ('\n', 'n'), ('\r', 'r'), ('\t', 't'), ('\x08', 'b'), ('\x0c', 'f')]

theorem escaped?_lettered : ∀ entry ∈ lettered,
    escaped? entry.2 = some entry.1 ∧ entry.2 ≠ 'u' ∧ encodeChar entry.1 = ['\\', entry.2] := by
  decide

/-- A character is read as one step from the way it is written. -/
theorem steps?_encodeChar_append (c : Char) (rest : List Char) :
    steps? (encodeChar c ++ rest) = (Step.char c).before (steps? rest) := by
  by_cases named : c ∈ lettered.map Prod.fst
  · obtain ⟨entry, member, rfl⟩ := List.mem_map.mp named
    obtain ⟨stands, plain, written⟩ := escaped?_lettered entry member
    rw [written]
    exact steps?_letter_cons stands plain
  · have others := named
    simp only [lettered, List.map_cons, List.map_nil, List.mem_cons, List.not_mem_nil, or_false,
      not_or] at others
    obtain ⟨quote, backslash, others⟩ := others
    by_cases control : c.toNat < 0x20
    · have written : encodeChar c = ['\\', 'u', '0', '0', hexDigit (c.toNat / 16),
          hexDigit (c.toNat % 16)] := by
        simp [encodeChar, quote, backslash, others, control]
      rw [written, ← Step.ofCode_control control]
      exact steps?_code_cons (hexCode?_control c.toNat control)
    · have written : encodeChar c = [c] := by
        simp [encodeChar, quote, backslash, others, control]
      rw [written]
      exact steps?_plain_cons quote backslash control

/-- Steps that are all characters make the text of these characters. -/
theorem join?_map_char (chars : List Char) : join? (chars.map Step.char) = some chars := by
  induction chars with
  | nil => rfl
  | cons c rest ih => rw [List.map_cons, join?, ih, Option.map_some]

theorem steps?_encoded (chars rest : List Char) :
    steps? (chars.flatMap encodeChar ++ '"' :: rest) = some (chars.map .char, rest) := by
  induction chars with
  | nil => rw [List.flatMap_nil, List.nil_append, steps?_quote_cons, List.map_nil]
  | cons c chars ih =>
    rw [List.flatMap_cons, List.append_assoc, steps?_encodeChar_append, ih, Step.before,
      Option.map_some, List.map_cons]

/-- A text comes back from its quoted form, and what follows the closing quote is left. -/
theorem read?_encode_append (text : String) (rest : List Char) :
    ∃ chars, encode text ++ rest = '"' :: chars ∧ read? chars = some (some text, rest) := by
  refine ⟨text.toList.flatMap encodeChar ++ '"' :: rest, by simp [encode], ?_⟩
  simp [read?, steps?_encoded, join?_map_char]

end Stencil.Json.Quoted
