import Mathlib.Order.Bounds.Basic
import Stencil.Text.Distance

/-! # What the edit distance counts

An edit puts one character into a text, takes one out, or puts one in the place of another. The
distance is the least number of edits that lead from one text to the other. A row of the table holds
the distances to all suffixes, so the distance satisfies the usual recursion; by it one edit changes
the distance to any third text by at most one, and the edits of a shortest way can be read off.
-/

namespace Stencil.Text

/-- One edit of a text. -/
inductive Edit : List Char → List Char → Prop
  | insert (front back : List Char) (c : Char) : Edit (front ++ back) (front ++ c :: back)
  | delete (front back : List Char) (c : Char) : Edit (front ++ c :: back) (front ++ back)
  | replace (front back : List Char) (c d : Char) : Edit (front ++ c :: back) (front ++ d :: back)

/-- A text is turned into another one by a number of edits. -/
inductive Becomes : Nat → List Char → List Char → Prop
  | refl (a : List Char) : Becomes 0 a a
  | step {n : Nat} {a b c : List Char} (edit : Edit a b) (others : Becomes n b c) :
    Becomes (n + 1) a c

variable {a b c : List Char} {x y : Char} {n : Nat}

/-! ## The recursion -/

/-- The row of the table for a text. -/
def row (a b : List Char) : List Nat := a.foldr (fun c row => nextRow c b row) (emptyRow b)

theorem editDistance_eq_headD (a b : List Char) : editDistance a b = (row a b).headD 0 := rfl

theorem tail_row_cons (a b : List Char) (y : Char) : (row a (y :: b)).tail = row a b := by
  induction a with
  | nil => rfl
  | cons x a ih =>
    change nextRow x b (row a (y :: b)).tail = nextRow x b (row a b)
    rw [ih]

theorem editDistance_nil (b : List Char) : editDistance [] b = b.length := by
  cases b <;> rfl

theorem editDistance_cons_nil (x : Char) (a : List Char) :
    editDistance (x :: a) [] = editDistance a [] + 1 := rfl

theorem editDistance_cons_cons (x y : Char) (a b : List Char) :
    editDistance (x :: a) (y :: b) = if x = y then editDistance a b
      else 1 + min (editDistance a b) (min (editDistance a (y :: b)) (editDistance (x :: a) b)) := by
  simp only [editDistance_eq_headD, ← tail_row_cons _ b y]
  rfl

theorem editDistance_cons_self (x : Char) (a b : List Char) :
    editDistance (x :: a) (x :: b) = editDistance a b := by
  rw [editDistance_cons_cons, if_pos rfl]

theorem editDistance_comm (a b : List Char) : editDistance a b = editDistance b a := by
  induction a generalizing b with
  | nil =>
    induction b with
    | nil => rfl
    | cons y b ih =>
      rw [editDistance_cons_nil, ← ih, editDistance_nil, editDistance_nil, List.length_cons]
  | cons x a ihA =>
    induction b with
    | nil => rw [editDistance_cons_nil, ihA, editDistance_nil, editDistance_nil, List.length_cons]
    | cons y b ihB =>
      rw [editDistance_cons_cons, editDistance_cons_cons, ihA b, ihA (y :: b), ihB,
        Nat.min_comm (editDistance (y :: b) a)]
      simp only [@eq_comm _ x y]

/-! ## One edit -/

/-- A character less in the second text takes at most one off the distance. -/
theorem editDistance_le_cons (a b : List Char) (y : Char) :
    editDistance a b ≤ editDistance a (y :: b) + 1 := by
  induction a generalizing b y with
  | nil =>
    rw [editDistance_nil, editDistance_nil, List.length_cons]
    omega
  | cons x a ih =>
    -- A character more in the first text puts at most one on it.
    have longer (b : List Char) : editDistance (x :: a) b ≤ editDistance a b + 1 := by
      cases b with
      | nil => exact Nat.le_of_eq (editDistance_cons_nil x a)
      | cons z b =>
        have shorter := ih b z
        rw [editDistance_cons_cons]
        split <;> omega
    have here := longer b
    have shorter := ih b y
    rw [editDistance_cons_cons]
    split <;> omega

theorem editDistance_cons_le (a b : List Char) (x : Char) :
    editDistance (x :: a) b ≤ editDistance a b + 1 := by
  cases b with
  | nil => exact Nat.le_of_eq (editDistance_cons_nil x a)
  | cons y b =>
    have shorter := editDistance_le_cons a b y
    rw [editDistance_cons_cons]
    split <;> omega

theorem editDistance_le_of_cons (a b : List Char) (x : Char) :
    editDistance a b ≤ editDistance (x :: a) b + 1 := by
  rw [editDistance_comm a, editDistance_comm (x :: a)]
  exact editDistance_le_cons b a x

theorem editDistance_replace_le (a b : List Char) (x y : Char) :
    editDistance (x :: a) b ≤ editDistance (y :: a) b + 1 := by
  induction b with
  | nil =>
    rw [editDistance_cons_nil, editDistance_cons_nil]
    omega
  | cons z b ih =>
    have shorter := editDistance_le_cons a b z
    have fewer := editDistance_le_of_cons a b y
    rw [editDistance_cons_cons, editDistance_cons_cons]
    split <;> split <;> omega

/-- What texts have in common at the front does not matter for how far a third one is from them. -/
theorem editDistance_append_le (front : List Char)
    (close : ∀ c, editDistance a c ≤ editDistance b c + 1) (c : List Char) :
    editDistance (front ++ a) c ≤ editDistance (front ++ b) c + 1 := by
  induction front generalizing c with
  | nil => exact close c
  | cons x front ih =>
    induction c with
    | nil =>
      have rest := ih []
      rw [List.cons_append, List.cons_append, editDistance_cons_nil, editDistance_cons_nil]
      omega
    | cons z c ihC =>
      have both := ih c
      have first := ih (z :: c)
      rw [List.cons_append, List.cons_append, editDistance_cons_cons, editDistance_cons_cons]
      rw [List.cons_append, List.cons_append] at ihC
      split <;> omega

/-- One edit of a text changes its distance to any other by at most one. -/
theorem editDistance_le_of_edit (edit : Edit a b) (c : List Char) :
    editDistance a c ≤ editDistance b c + 1 := by
  cases edit with
  | insert front back x => exact editDistance_append_le front (editDistance_le_of_cons back · x) c
  | delete front back x => exact editDistance_append_le front (editDistance_cons_le back · x) c
  | replace front back x y => exact editDistance_append_le front (editDistance_replace_le back · x y) c

theorem editDistance_self (a : List Char) : editDistance a a = 0 := by
  induction a with
  | nil => rfl
  | cons x a ih => rw [editDistance_cons_self, ih]

/-- No way from one text to the other is shorter than the distance. -/
theorem editDistance_le_of_becomes (becomes : Becomes n a b) : editDistance a b ≤ n := by
  induction becomes with
  | refl a => exact Nat.le_of_eq (editDistance_self a)
  | step edit others ih => exact (editDistance_le_of_edit edit _).trans (Nat.succ_le_succ ih)

/-! ## A shortest way -/

theorem Edit.cons (x : Char) (edit : Edit a b) : Edit (x :: a) (x :: b) := by
  cases edit with
  | insert front back c => exact .insert (x :: front) back c
  | delete front back c => exact .delete (x :: front) back c
  | replace front back c d => exact .replace (x :: front) back c d

theorem Becomes.cons (x : Char) (becomes : Becomes n a b) : Becomes n (x :: a) (x :: b) := by
  induction becomes with
  | refl a => exact .refl (x :: a)
  | step edit others ih => exact .step (edit.cons x) ih

theorem becomes_editDistance (a b : List Char) : Becomes (editDistance a b) a b := by
  induction a generalizing b with
  | nil =>
    induction b with
    | nil => exact .refl []
    | cons y b ih =>
      rw [editDistance_nil] at ih ⊢
      exact .step (.insert [] [] y) (ih.cons y)
  | cons x a ihA =>
    induction b with
    | nil => exact .step (.delete [] a x) (ihA [])
    | cons y b ihB =>
      by_cases same : x = y
      · subst same
        rw [editDistance_cons_self]
        exact (ihA b).cons x
      · -- The least of the three says with which edit a shortest way begins.
        have least : editDistance (x :: a) (y :: b) = editDistance a b + 1 ∨
            editDistance (x :: a) (y :: b) = editDistance a (y :: b) + 1 ∨
            editDistance (x :: a) (y :: b) = editDistance (x :: a) b + 1 := by
          rw [editDistance_cons_cons, if_neg same]
          omega
        rcases least with replaced | deleted | inserted
        · rw [replaced]
          exact .step (.replace [] a x y) ((ihA b).cons y)
        · rw [deleted]
          exact .step (.delete [] a x) (ihA (y :: b))
        · rw [inserted]
          exact .step (.insert [] (x :: a) y) (ihB.cons y)

/-- The distance of two texts is the least number of edits that turn one into the other. -/
theorem isLeast_editDistance (a b : List Char) : IsLeast {n | Becomes n a b} (editDistance a b) :=
  ⟨becomes_editDistance a b, fun _ becomes => editDistance_le_of_becomes becomes⟩

end Stencil.Text
