import RobotWorkshop.Text.Columns
import RobotWorkshop.Text.Markup

/-!
A text on a console: control characters are left out, tabs lead to every eighth column, and lines
that are too long for the console are broken between words, or within a word that is too long for
any line.  Spacing at the end of a line is not shown.
-/

namespace RobotWorkshop.Console

/-- The columns of the console. -/
def width : Nat := 1000

/-- The characters that are left out: the bell, backspace, and what moves to other lines. -/
def isControl (c : Char) : Bool := c.toNat ∈ [7, 8, 11, 12, 13]

/-- A line with spaces in place of tabs, from a column on. -/
def expandTabs (column : Nat) : List Char → List Char
  | [] => []
  | '\t' :: rest =>
    let next := column / 8 * 8 + 8
    List.replicate (next - column) ' ' ++ expandTabs next rest
  | c :: rest => c :: expandTabs (column + columnsOf c) rest

/-- Splits a text into words with the spacing behind them; spacing at the start belongs to the
first. -/
def words (text : List Char) : List (List Char) :=
  let start := text.takeWhile isSpacing
  match (text.drop start.length).splitBy fun a b => !isSpacing a || isSpacing b with
  | [] => []
  | first :: rest => (start ++ first) :: rest

/-- Pieces of a word, each as long as a line can take. -/
def chopped (done : List (List Char)) (line : List Char) (column : Nat) : List Char → List (List Char)
  | [] => done ++ [line.reverse]
  | c :: rest =>
    if width < column + columnsOf c then chopped (done ++ [line.reverse]) [c] (columnsOf c) rest
    else chopped done (c :: line) (column + columnsOf c) rest

/-- The columns of a word without the spacing behind it. -/
def wordColumns (word : List Char) : Nat :=
  columns (word.reverse.dropWhile isSpacing).reverse

/-- Lines of some words.  `line` is what stands on the current line, up to `column`. -/
def filled (line : List Char) (column : Nat) : List (List Char) → List (List Char)
  | [] => [line]
  | word :: rest =>
    if column + wordColumns word ≤ width then filled (line ++ word) (column + columns word) rest
    else if width < wordColumns word then
      let pieces := chopped [] [] 0 word
      let last := pieces.getLast?.getD []
      (if line.isEmpty then [] else [line]) ++ pieces.dropLast ++ filled last (columns last) rest
    else if column ≠ 0 ∧ line ≠ [] then line :: filled word (columns word) rest
    else filled (line ++ word) column rest

/-- A text without spacing at its end. -/
def trimEnd (text : List Char) : List Char := (text.reverse.dropWhile isSpacing).reverse

/-- The lines of a text. -/
def lines (text : List Char) : List String :=
  let text := text.filter (!isControl ·)
  (text.splitOn '\n').flatMap fun line =>
    (filled [] 0 (words (expandTabs 0 line))).map fun line => String.ofList (trimEnd line)

/-- The lines of a marked-up text. -/
def markedUp (text : String) : Except MarkupFault (List String) :=
  (Markup.shown text.toList).map lines

end RobotWorkshop.Console
