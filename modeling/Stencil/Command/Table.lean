/-! # Tables

Rows of text in columns inside a frame. Every column is as wide as its widest cell, cells are padded
on both sides, and a double line stands below the header.
-/

namespace Stencil.Command.Table

/-- The width of each column: that of its widest cell. -/
def widths (rows : List (List String)) : List Nat :=
  rows.foldl (fun widest row => widest.zipWith max (row.map String.length))
    ((rows.headD []).map String.length)

/-- A cell brought to the width of its column. -/
def cell (width : Nat) (text : String) : String :=
  text ++ String.ofList (List.replicate (width - text.length) ' ')

/-- A row between the sides of the frame. -/
def row (widths : List Nat) (cells : List String) : String :=
  "│ " ++ String.intercalate "   " (widths.zipWith cell cells) ++ " │"

/-- A horizontal line of the frame. -/
def rule (widths : List Nat) (left line right : Char) : String :=
  let inner := widths.foldl (· + · + 3) 0 - 1
  String.ofList (left :: List.replicate inner line ++ [right])

/-- A table with a header. -/
def render (header : List String) (rows : List (List String)) : String :=
  let columns := widths (header :: rows)
  String.intercalate "\n" (
    [rule columns '┌' '─' '┐', row columns header, rule columns '╞' '═' '╡'] ++
    rows.map (row columns) ++ [rule columns '└' '─' '┘'])

end Stencil.Command.Table
