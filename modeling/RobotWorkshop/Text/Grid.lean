/-!
Tables for a terminal: a title, a header in heavy lines, and rows in light ones.

        Totals
    ┏━━━━━┳━━━━━━━┓
    ┃ day ┃ gears ┃
    ┡━━━━━╇━━━━━━━┩
    │ 1   │ 20    │
    └─────┴───────┘

A column is as wide as its longest cell, with a blank on both sides.
-/

namespace RobotWorkshop

/-- A table; each of its rows has a cell for each column. -/
structure Grid where
  title : String
  header : List String
  rows : List (List String)
  /-- Whether a line is drawn between two rows. -/
  ruled : Bool := false

namespace Grid

/-- A text without the blanks at its end. -/
def trimEnd (text : String) : String :=
  String.ofList (text.toList.reverse.dropWhile (· == ' ')).reverse

/-- The length of the longest cell of each column. -/
def widths (g : Grid) : List Nat :=
  g.rows.foldl (List.zipWith fun width cell => max width cell.length)
    (g.header.map String.length)

/-- A line across the table: its ends, what joins two columns, and what fills one. -/
def rule (widths : List Nat) (first join last : String) (fill : Char) : String :=
  first ++ join.intercalate (widths.map fun w => String.ofList (List.replicate (w + 2) fill)) ++ last

/-- Cells between bars, filled up to the widths of their columns. -/
def row (widths : List Nat) (bar : String) (cells : List String) : String :=
  let padded := List.zipWith (fun width cell =>
    " " ++ cell ++ String.ofList (List.replicate (width - cell.length + 1) ' ')) widths cells
  bar ++ bar.intercalate padded ++ bar

/-- The title, in the middle above the table. -/
def heading (widths : List Nat) (title : String) : String :=
  let whole := widths.foldl (fun sum w => sum + w + 3) 1
  trimEnd (String.ofList (List.replicate ((whole - title.length) / 2) ' ') ++ title)

/-- The lines of a table. -/
def lines (g : Grid) : List String :=
  let ws := g.widths
  let rows := g.rows.map (row ws "│")
  let rows := if g.ruled then rows.intersperse (rule ws "├" "┼" "┤" '─') else rows
  [heading ws g.title, rule ws "┏" "┳" "┓" '━', row ws "┃" g.header, rule ws "┡" "╇" "┩" '━'] ++
    rows ++ [rule ws "└" "┴" "┘" '─']

end Grid

end RobotWorkshop
