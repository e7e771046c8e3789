import Mathlib.Data.String.Basic

/-! # The order of texts by their bytes

A text is stored as the bytes of its characters, one after the other: a first byte that tells how many
follow, and digits of the code to the base 64 in these. The greater of two codes has the greater first
byte or as many digits, and these are then in the order of the codes. So texts come in the same order
by their bytes as by their characters.
-/

namespace Stencil.Text

/-- The bytes of a text. -/
def bytes (text : String) : List UInt8 := text.toUTF8.data.toList

theorem bytes_eq_flatMap (text : String) :
    bytes text = text.toList.flatMap String.utf8EncodeChar := by
  conv_lhs => rw [← String.ofList_toList (s := text)]
  rw [bytes, String.toUTF8, String.toByteArray_ofList, List.utf8Encode, List.toList_data_toByteArray]

/-- The number of bytes behind the first one of a code. -/
def followers (code : Nat) : Nat :=
  if code ≤ 127 then 0 else if code ≤ 2047 then 1 else if code ≤ 65535 then 2 else 3

/-- What a first byte with a number of followers is marked with. -/
def mark : Nat → Nat
  | 0 => 0
  | 1 => 192
  | 2 => 224
  | _ => 240

/-- The first byte of a code. -/
def firstByte (code : Nat) : Nat := code / 64 ^ followers code + mark (followers code)

/-- The lowest digits of a code to the base 64, each in a byte. -/
def lowDigits : Nat → Nat → List UInt8
  | 0, _ => []
  | count + 1, code => UInt8.ofNat (code / 64 ^ count % 64 + 128) :: lowDigits count code

variable {m n : Nat}

theorem ofNat_lt_ofNat (less : m < n) (small : n < 256) : UInt8.ofNat m < UInt8.ofNat n :=
  (UInt8.ofNat_lt_iff_lt (less.trans small) small).mpr less

theorem firstByte_lt (bound : n < 0x110000) : firstByte n < 256 := by
  unfold firstByte followers
  split_ifs <;> simp only [mark, Nat.reducePow] <;> omega

theorem followers_le (less : m < n) : followers m ≤ followers n := by
  unfold followers
  split_ifs <;> omega

theorem firstByte_lt_of_followers_lt (bound : n < 0x110000) (fewer : followers m < followers n) :
    firstByte m < firstByte n := by
  unfold firstByte
  unfold followers at fewer ⊢
  split_ifs at fewer ⊢ <;> simp only [mark, Nat.reducePow] <;> omega

theorem lowDigits_append_lt {count : Nat} (less : m % 64 ^ count < n % 64 ^ count)
    (behind rest : List UInt8) : lowDigits count m ++ behind < lowDigits count n ++ rest := by
  induction count with
  | zero =>
    rw [Nat.pow_zero, Nat.mod_one, Nat.mod_one] at less
    omega
  | succ count ih =>
    rw [Nat.mod_pow_succ, Nat.mod_pow_succ] at less
    rcases Nat.lt_trichotomy (m / 64 ^ count % 64) (n / 64 ^ count % 64) with lower | same | higher
    · exact .rel (ofNat_lt_ofNat (by omega) (by omega))
    · rw [same] at less
      rw [lowDigits, lowDigits, same]
      exact .cons (ih (by omega))
    · have apart := Nat.mul_le_mul_left (64 ^ count) (Nat.succ_le_of_lt higher)
      have small := Nat.mod_lt n (Nat.pow_pos (n := count) (show 0 < 64 by decide))
      rw [Nat.mul_succ] at apart
      omega

theorem toNat_val_lt (c : Char) : c.val.toNat < 0x110000 := by
  rcases c.valid with low | ⟨-, high⟩
  · change c.val.toNat < 0xd800 at low
    omega
  · exact high

theorem utf8EncodeChar_eq (c : Char) : String.utf8EncodeChar c =
    UInt8.ofNat (firstByte c.val.toNat) :: lowDigits (followers c.val.toNat) c.val.toNat := by
  have bound := toNat_val_lt c
  unfold String.utf8EncodeChar firstByte followers
  generalize c.val.toNat = code at bound
  dsimp only
  split_ifs
  · simp [mark, lowDigits]
  · rw [Nat.mod_eq_of_lt (by omega)]
    simp [mark, lowDigits]
  · rw [Nat.mod_eq_of_lt (by omega)]
    simp [mark, lowDigits]
  · rw [Nat.mod_eq_of_lt (by omega)]
    simp [mark, lowDigits]

/-- The bytes of a character with a smaller code come first, whatever follows. -/
theorem utf8EncodeChar_append_lt {c d : Char} (less : c < d) (behind rest : List UInt8) :
    String.utf8EncodeChar c ++ behind < String.utf8EncodeChar d ++ rest := by
  have codes : c.val.toNat < d.val.toNat := less
  have bound := toNat_val_lt d
  rw [utf8EncodeChar_eq, utf8EncodeChar_eq]
  generalize c.val.toNat = m at codes
  generalize d.val.toNat = n at codes bound
  have small := firstByte_lt bound
  rcases Nat.lt_or_eq_of_le (followers_le codes) with fewer | same
  · exact .rel (ofNat_lt_ofNat (firstByte_lt_of_followers_lt bound fewer) small)
  · rw [firstByte] at small
    rw [firstByte, firstByte, same]
    have upTo : m / 64 ^ followers n ≤ n / 64 ^ followers n := Nat.div_le_div_right codes.le
    rcases Nat.lt_or_eq_of_le upTo with upper | upper
    · exact .rel (ofNat_lt_ofNat (by omega) small)
    · have lower := Nat.div_add_mod m (64 ^ followers n)
      have whole := Nat.div_add_mod n (64 ^ followers n)
      rw [upper] at lower ⊢
      exact .cons (lowDigits_append_lt (by omega) behind rest)

theorem flatMap_utf8EncodeChar_lt {a b : List Char} (less : a < b) :
    a.flatMap String.utf8EncodeChar < b.flatMap String.utf8EncodeChar := by
  induction less with
  | @nil d rest =>
    rw [List.flatMap_cons, utf8EncodeChar_eq]
    exact .nil
  | rel first => exact utf8EncodeChar_append_lt first _ _
  | cons rest ih => exact List.append_left_lt ih

/-- Texts come in the same order by their bytes as by their characters. -/
theorem bytes_lt_bytes_iff {a b : String} : bytes a < bytes b ↔ a < b := by
  simp only [bytes_eq_flatMap]
  refine ⟨fun less => ?_, flatMap_utf8EncodeChar_lt⟩
  rcases lt_trichotomy a b with before | rfl | behind
  · exact before
  · exact absurd less (List.lt_irrefl _)
  · exact absurd less (List.lt_asymm (flatMap_utf8EncodeChar_lt behind))

end Stencil.Text
