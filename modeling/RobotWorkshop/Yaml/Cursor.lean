/-!
A place in a text: what follows, and its index, line and column.  Past the end every character is
the character zero, which no document contains.
-/

namespace RobotWorkshop.Yaml

/-! ## Classes of characters -/

/-- The character past the end of the text. -/
def past : Char := '\x00'

def isBreak (c : Char) : Bool :=
  c == '\n' || c == '\r' || c == '\x85' || c == '\u2028' || c == '\u2029'

def isBreakOrPast (c : Char) : Bool := c == past || isBreak c

def isGap (c : Char) : Bool := c == ' ' || c == '\t' || isBreakOrPast c

/-- Letters, digits and the two marks that names of anchors and handles are made of. -/
def isWordChar (c : Char) : Bool := c.isAlphanum || c == '-' || c == '_'

/-- The byte order mark, which takes no column. -/
def byteOrderMark : Char := '\ufeff'

/-- The characters that a document may contain. -/
def isAllowed (c : Char) : Bool :=
  let n := c.toNat
  n == 9 || n == 10 || n == 13 || (0x20 ≤ n && n ≤ 0x7E) || n == 0x85 || (0xA0 ≤ n && n ≤ 0xD7FF) ||
    (0xE000 ≤ n && n ≤ 0xFFFD) || 0x10000 ≤ n

/-! ## Cursors -/

structure Cursor where
  rest : List Char
  index : Nat := 0
  line : Nat := 0
  column : Nat := 0

namespace Cursor

/-- The character `n` places ahead. -/
def ahead (c : Cursor) (n : Nat) : Char := (c.rest[n]?).getD past

def peek (c : Cursor) : Char := c.ahead 0

/-- One character on. -/
def next (c : Cursor) : Cursor :=
  match c.rest with
  | [] => c
  | x :: rest =>
    let breaks := isBreak x && !(x == '\r' && rest.head? == some '\n')
    { rest
      index := c.index + 1
      line := if breaks then c.line + 1 else c.line
      column := if breaks then 0 else if x == byteOrderMark then c.column else c.column + 1 }

def skip (c : Cursor) : Nat → Cursor
  | 0 => c
  | n + 1 => c.next.skip n

/-- The longest run of characters of a class, and the place behind it. -/
def span (c : Cursor) (p : Char → Bool) : List Char × Cursor :=
  let run := c.rest.takeWhile p
  (run, c.skip run.length)

def skipWhile (c : Cursor) (p : Char → Bool) : Cursor := (c.span p).2

/-- The line break at this place, if there is one, in its normal form. -/
def lineBreak (c : Cursor) : List Char × Cursor :=
  match c.peek with
  | '\r' => (['\n'], if c.ahead 1 == '\n' then c.skip 2 else c.next)
  | '\n' | '\x85' => (['\n'], c.next)
  | '\u2028' => (['\u2028'], c.next)
  | '\u2029' => (['\u2029'], c.next)
  | _ => ([], c)

/-- Whether three marks and a gap follow. -/
def atTriple (c : Cursor) (mark : Char) : Bool :=
  c.ahead 0 == mark && c.ahead 1 == mark && c.ahead 2 == mark && isGap (c.ahead 3)

/-- Whether a mark between two documents follows. -/
def atSeparator (c : Cursor) : Bool := c.atTriple '-' || c.atTriple '.'

/-- Blanks and a comment up to the end of the line; anything else there is refused. -/
def restOfLine? (c : Cursor) : Option Cursor :=
  let c := c.skipWhile (· == ' ')
  let c := if c.peek == '#' then c.skipWhile (!isBreak ·) else c
  if isBreakOrPast c.peek then some c.lineBreak.2 else none

end Cursor

end RobotWorkshop.Yaml
