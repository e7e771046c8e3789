/-! # Character entities

Data goes into markup with five characters replaced by entities. `decode` reads exactly those five
back, from left to right in one pass, so nothing is lost: `decode_encode`.
-/

namespace Stencil.Text.Entities

/-- The entity written for a character, for the five that have one. -/
def entity? : Char → Option (List Char)
  | '&' => some ['&', 'a', 'm', 'p', ';']
  | '<' => some ['&', 'l', 't', ';']
  | '>' => some ['&', 'g', 't', ';']
  | '"' => some ['&', 'q', 'u', 'o', 't', ';']
  | '\'' => some ['&', '#', '3', '9', ';']
  | _ => none

/-- The written form of one character. -/
def encodeChar (c : Char) : List Char := (entity? c).getD [c]

/-- A text with its special characters replaced by entities. -/
def encode (chars : List Char) : List Char := chars.flatMap encodeChar

/-- A text with the five entities replaced by the characters they stand for; any other ampersand
stands for itself. -/
def decode : List Char → List Char
  | '&' :: 'a' :: 'm' :: 'p' :: ';' :: rest => '&' :: decode rest
  | '&' :: 'l' :: 't' :: ';' :: rest => '<' :: decode rest
  | '&' :: 'g' :: 't' :: ';' :: rest => '>' :: decode rest
  | '&' :: 'q' :: 'u' :: 'o' :: 't' :: ';' :: rest => '"' :: decode rest
  | '&' :: '#' :: '3' :: '9' :: ';' :: rest => '\'' :: decode rest
  | c :: rest => c :: decode rest
  | [] => []

@[simp] theorem encode_cons (c : Char) (chars : List Char) :
    encode (c :: chars) = encodeChar c ++ encode chars := List.flatMap_cons ..

theorem encode_append (front back : List Char) :
    encode (front ++ back) = encode front ++ encode back := List.flatMap_append ..

theorem decode_cons_of_ne {c : Char} (plain : c ≠ '&') (rest : List Char) :
    decode (c :: rest) = c :: decode rest := by
  rw [decode] <;> simp [plain]

/-- The written form of a character is read back whatever follows it. -/
theorem decode_encodeChar_append (c : Char) (rest : List Char) :
    decode (encodeChar c ++ rest) = c :: decode rest := by
  unfold encodeChar entity?
  split <;> simp_all [decode, decode_cons_of_ne]

theorem decode_encode (chars : List Char) : decode (encode chars) = chars := by
  induction chars with
  | nil => rfl
  | cons c rest ih => rw [encode_cons, decode_encodeChar_append, ih]

end Stencil.Text.Entities

namespace Stencil

/-- A text made safe to stand in markup, in an attribute as well as between tags. -/
def escapeMarkup (text : String) : String := String.ofList (Text.Entities.encode text.toList)

end Stencil
