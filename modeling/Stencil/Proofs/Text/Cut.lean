import Mathlib.Data.List.TakeWhile
import Stencil.Text.Blank
import Stencil.Text.Pairs

/-! # Where texts are cut

The search for a pair finds every pair that stands behind a text free of its character, from either
end, and never passes one by. Trimming takes blanks from both ends of a text and nothing else.
-/

namespace Stencil.Text

theorem cutAtPair?_of_notMem {c : Char} {before : List Char} (free : c ∉ before)
    (behind : List Char) : cutAtPair? c (before ++ c :: c :: behind) = some (before, behind) := by
  induction before with
  | nil => simp [cutAtPair?]
  | cons a rest ih =>
    obtain ⟨other, free⟩ := not_or.mp (mt List.mem_cons.mpr free)
    have single (b : Char) : ¬(a = c ∧ b = c) := fun pair => other pair.1.symm
    cases rest with
    | nil =>
      have found := ih free
      simp only [List.nil_append, List.cons_append] at found ⊢
      rw [cutAtPair?, if_neg (single _), found]
      rfl
    | cons b rest =>
      have found := ih free
      simp only [List.cons_append] at found ⊢
      rw [cutAtPair?, if_neg (single _), found]
      rfl

/-- The first pair is found no later than any pair that is there. -/
theorem exists_cutAtPair? (c : Char) (before behind : List Char) :
    ∃ lead more rest, cutAtPair? c (before ++ c :: c :: behind) = some (lead, rest) ∧
      before = lead ++ more ∧ more ++ c :: c :: behind = c :: c :: rest := by
  have prefixed : ∃ lead more rest,
      cutAtPair? c (before ++ c :: c :: behind) = some (lead, rest) ∧ before = lead ++ more := by
    induction before with
    | nil => exact ⟨[], [], behind, by simp [cutAtPair?], rfl⟩
    | cons a before ih =>
      obtain ⟨lead, more, rest, found, rfl⟩ := ih
      obtain ⟨b, tail, shape⟩ : ∃ b tail, (lead ++ more) ++ c :: c :: behind = b :: tail :=
        List.exists_cons_of_ne_nil (by simp)
      rw [shape] at found
      rw [List.cons_append, shape, cutAtPair?]
      split
      · exact ⟨[], a :: (lead ++ more), tail, rfl, rfl⟩
      · exact ⟨a :: lead, more, rest, by rw [found]; rfl, rfl⟩
  obtain ⟨lead, more, rest, found, rfl⟩ := prefixed
  refine ⟨lead, more, rest, found, rfl, ?_⟩
  have whole := eq_of_cutAtPair? found
  rw [List.append_assoc] at whole
  exact List.append_cancel_left whole

theorem cutAtPair?_eq_none_iff (c : Char) (chars : List Char) :
    cutAtPair? c chars = none ↔ ¬[c, c] <:+: chars := by
  constructor
  · rintro missed ⟨before, behind, whole⟩
    obtain ⟨lead, _, rest, found, _⟩ := exists_cutAtPair? c before behind
    have shape : before ++ c :: c :: behind = chars := by simpa using whole
    rw [shape, missed] at found
    cases found
  · intro free
    cases found : cutAtPair? c chars with
    | none => rfl
    | some sides =>
      refine absurd ?_ free
      exact ⟨sides.1, sides.2, by simp [eq_of_cutAtPair? found]⟩

/-- No pair begins in front of the first one. -/
theorem not_infix_of_cutAtPair? {c : Char} {chars lead rest : List Char}
    (first : cutAtPair? c chars = some (lead, rest)) : ¬[c, c] <:+: lead ++ [c] := by
  rintro ⟨before, behind, earlier⟩
  have whole : before ++ c :: c :: (behind ++ c :: rest) = chars := by
    have split := congrArg (· ++ c :: rest) earlier
    rw [eq_of_cutAtPair? first]
    simpa using split
  obtain ⟨_, more, _, found, shape, _⟩ := exists_cutAtPair? c before (behind ++ c :: rest)
  rw [whole, first] at found
  cases found
  have longer := congrArg List.length earlier
  simp only [shape, List.length_append, List.length_cons, List.length_nil] at longer
  omega

/-- A pair does not reach into text that is free of its character. -/
theorem pair_infix_append_left {c : Char} {front : List Char} (free : c ∉ front)
    (back : List Char) : [c, c] <:+: front ++ back ↔ [c, c] <:+: back := by
  constructor
  · rintro ⟨before, behind, whole⟩
    rw [List.append_assoc] at whole
    rcases List.append_eq_append_iff.mp whole with ⟨more, rfl, rest⟩ | ⟨more, rfl, rest⟩
    · cases more with
      | nil => exact ⟨[], behind, by simpa using rest⟩
      | cons a more =>
        obtain ⟨rfl, _⟩ := List.cons.inj rest
        exact absurd (by simp) free
    · exact ⟨more, behind, by simp [rest]⟩
  · intro pair
    exact pair.trans (List.suffix_append front back).isInfix

theorem pair_infix_append_right {c : Char} {back : List Char} (free : c ∉ back)
    (front : List Char) : [c, c] <:+: front ++ back ↔ [c, c] <:+: front := by
  have flipped := pair_infix_append_left (c := c) (mt List.mem_reverse.mp free) front.reverse
  rw [← List.reverse_append] at flipped
  calc [c, c] <:+: front ++ back
    _ ↔ [c, c].reverse <:+: (front ++ back).reverse := List.reverse_infix.symm
    _ ↔ [c, c].reverse <:+: front.reverse := flipped
    _ ↔ [c, c] <:+: front := List.reverse_infix

theorem cutAtLastPair?_of_notMem {c : Char} (before : List Char) {behind : List Char}
    (free : c ∉ behind) :
    cutAtLastPair? c (before ++ c :: c :: behind) = some (before, behind) := by
  have found := cutAtPair?_of_notMem (mt List.mem_reverse.mp free) before.reverse
  have flipped : (before ++ c :: c :: behind).reverse =
      behind.reverse ++ c :: c :: before.reverse := by simp
  rw [cutAtLastPair?, flipped, found]
  simp

/-- Trimming takes nothing but blanks. -/
theorem exists_trim (chars : List Char) :
    ∃ front back, chars = front ++ trim chars ++ back ∧
      (∀ c ∈ front, isBlank c) ∧ ∀ c ∈ back, isBlank c := by
  refine ⟨chars.takeWhile isBlank, ((trimFront chars).reverse.takeWhile isBlank).reverse,
    ?_, ?_, ?_⟩
  · have back : trim chars ++ ((trimFront chars).reverse.takeWhile isBlank).reverse =
        trimFront chars := by
      rw [trim, trimBack, ← List.reverse_append, List.takeWhile_append_dropWhile,
        List.reverse_reverse]
    rw [List.append_assoc, back, trimFront, List.takeWhile_append_dropWhile]
  · exact fun c member => List.mem_takeWhile_imp member
  · exact fun c member => List.mem_takeWhile_imp (List.mem_reverse.mp member)

/-- Trimming takes all the blanks around a text that begins and ends with something else. -/
theorem trim_append {front word back : List Char} {first last : Char}
    (blankFront : ∀ c ∈ front, isBlank c) (blankBack : ∀ c ∈ back, isBlank c)
    (begins : word.head? = some first) (solidFirst : isBlank first = false)
    (ends : word.getLast? = some last) (solidLast : isBlank last = false) :
    trim (front ++ word ++ back) = word := by
  have unfronted : trimFront (front ++ word ++ back) = word ++ back := by
    obtain ⟨rest, rfl⟩ := List.head?_eq_some_iff.mp begins
    rw [trimFront, List.append_assoc, List.dropWhile_append_of_pos blankFront]
    simp [solidFirst]
  have flipped : ∀ c ∈ back.reverse, isBlank c :=
    fun c member => blankBack c (List.mem_reverse.mp member)
  rw [trim, unfronted]
  obtain ⟨rest, rfl⟩ := List.getLast?_eq_some_iff.mp ends
  rw [trimBack, List.reverse_append, List.dropWhile_append_of_pos flipped]
  simp [solidLast]

/-- Trimming takes exactly the blanks around a text that has none itself. -/
theorem trim_append_of_solid {front word back : List Char} (blankFront : ∀ c ∈ front, isBlank c)
    (blankBack : ∀ c ∈ back, isBlank c) (nonempty : word ≠ [])
    (solid : ∀ c ∈ word, isBlank c = false) : trim (front ++ word ++ back) = word :=
  trim_append blankFront blankBack (List.head?_eq_some_head nonempty)
    (solid _ (List.head_mem nonempty)) (List.getLast?_eq_some_getLast nonempty)
    (solid _ (List.getLast_mem nonempty))

end Stencil.Text
