import Stencil.Text.Position

/-! # Positions in closed form

Carrying a position along a text gives what counting in the text gives: the bytes of what was read,
the line breaks in it, and the characters behind the last of them. What stands further behind in a
text stands further down or further to the right.
-/

namespace Stencil

/-- A place comes before another: on an earlier line, or on the same line further to the left. -/
def Place.Before (a b : Place) : Prop := a.line < b.line ∨ a.line = b.line ∧ a.column < b.column

theorem Place.Before.trans {a b c : Place} (first : a.Before b) (second : b.Before c) :
    a.Before c := by
  unfold Before at *
  omega

namespace Position

/-- The position behind a text, counted in the text. -/
def behind (chars : List Char) : Position where
  line := 1 + chars.count '\n'
  column := 1 + (chars.reverse.takeWhile (· ≠ '\n')).length
  offset := (String.ofList chars).utf8ByteSize

theorem behind_append_singleton (chars : List Char) (c : Char) :
    behind (chars ++ [c]) = (behind chars).advance c := by
  by_cases feed : c = '\n'
  · have size : "\n".utf8ByteSize = 1 := by decide
    simp [behind, advance, feed, size, Nat.add_assoc]
  · simp [behind, advance, feed, Nat.add_comm]

/-- A position carried along from the start of a text is the counted one. -/
theorem start_after (chars : List Char) : start.after chars = behind chars := by
  rw [← List.reverse_reverse chars]
  induction chars.reverse with
  | nil => rfl
  | cons c rest ih =>
    rw [List.reverse_cons, after_append, ih, behind_append_singleton]
    rfl

theorem before_advance (p : Position) (c : Char) : p.toPlace.Before (p.advance c).toPlace := by
  by_cases feed : c = '\n'
  · exact .inl (by simp [advance, feed])
  · exact .inr (by simp [advance, feed])

theorem before_after (p : Position) {chars : List Char} (some : chars ≠ []) :
    p.toPlace.Before (p.after chars).toPlace := by
  induction chars generalizing p with
  | nil => exact absurd rfl some
  | cons c rest ih =>
    rw [after_cons]
    by_cases single : rest = []
    · rw [single]
      exact p.before_advance c
    · exact (p.before_advance c).trans (ih _ single)

theorem behind_append (front back : List Char) :
    behind (front ++ back) = (behind front).after back := by
  rw [← start_after, ← start_after, after_append]

/-- Behind more text is another position. -/
theorem behind_eq_behind_append_iff (front back : List Char) :
    behind front = behind (front ++ back) ↔ back = [] := by
  constructor
  · intro same
    cases back with
    | nil => rfl
    | cons c rest =>
      have onward := before_after (behind front) (List.cons_ne_nil c rest)
      rw [← behind_append, ← same, Place.Before] at onward
      omega
  · rintro rfl
    rw [List.append_nil]

/-- Of two beginnings of a text, the shorter one ends at the earlier place. -/
theorem behind_before_of_length_lt {front back whole : List Char} (inFront : front <+: whole)
    (inBack : back <+: whole) (less : front.length < back.length) :
    (behind front).toPlace.Before (behind back).toPlace := by
  obtain ⟨more, rfl⟩ := List.prefix_of_prefix_length_le inFront inBack (Nat.le_of_lt less)
  have some : more ≠ [] := by
    rintro rfl
    rw [List.append_nil] at less
    exact Nat.lt_irrefl _ less
  rw [behind_append]
  exact before_after _ some

end Position

end Stencil
