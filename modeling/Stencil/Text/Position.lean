/-! # Positions in a text

A position is a byte offset from the start of a text with the line and the column it falls on.
Positions are never looked up: they are carried along while a text is read, one character at a
time, so the position of any point is the fold of `Position.advance` over what stands before it.
-/

namespace Stencil

/-- A line and a column, both counted from one; the column counts characters. -/
structure Place where
  line : Nat
  column : Nat
deriving DecidableEq, Repr

/-- A place with its distance from the start of the text in bytes of UTF-8. -/
structure Position extends Place where
  offset : Nat
deriving DecidableEq, Repr

namespace Position

/-- The position of the first character of a text. -/
def start : Position := ⟨⟨1, 1⟩, 0⟩

/-- The position behind a character: only a line feed ends a line. -/
def advance (p : Position) (c : Char) : Position :=
  if c = '\n' then ⟨⟨p.line + 1, 1⟩, p.offset + 1⟩
  else ⟨⟨p.line, p.column + 1⟩, p.offset + c.utf8Size⟩

/-- The position behind a run of characters. -/
def after (p : Position) (chars : List Char) : Position := chars.foldl advance p

@[simp] theorem after_nil (p : Position) : p.after [] = p := rfl

@[simp] theorem after_cons (p : Position) (c : Char) (chars : List Char) :
    p.after (c :: chars) = (p.advance c).after chars := rfl

theorem after_append (p : Position) (front back : List Char) :
    p.after (front ++ back) = (p.after front).after back := List.foldl_append ..

end Position

end Stencil
