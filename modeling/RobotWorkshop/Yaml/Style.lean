import RobotWorkshop.Text.Quoted
import RobotWorkshop.Yaml.Plain

/-!
Texts as scalars of a document.  A text is written plainly where that reads back as the same text,
between single quotes where it does not, and between double quotes, with escapes, if it holds a
character other than a line feed and the printable ones of ASCII.

A line that has passed its width is folded at the next place where a single space stands.
-/

namespace RobotWorkshop.Yaml

/-- How a text is written. -/
inductive Style where
  | plain
  | single
  | double
deriving DecidableEq, Repr

namespace Style

/-- Characters that stand for themselves between single quotes. -/
def isSimple (c : Char) : Bool := c == '\n' || (' ' ≤ c && c ≤ '~')

/-- Characters that begin something else than a plain scalar. -/
def isLeader (c : Char) : Bool := c ∈ "#,[]\x7b\x7d&*!|>'\"%@`".toList

/-- Whether a character is at the end, or a space follows it. -/
def beforeSpace (rest : List Char) : Bool := rest.isEmpty || rest.head? == some ' '

/-- Whether nothing from the second character on ends a plain scalar: a colon before a space, or a
number sign behind one. -/
def isContinued : List Char → Bool
  | ' ' :: '#' :: _ => false
  | ':' :: rest => !beforeSpace rest && isContinued rest
  | _ :: rest => isContinued rest
  | [] => true

/-- Whether a text may begin a plain scalar. -/
def isBegun : List Char → Bool
  | '-' :: '-' :: '-' :: _ | '.' :: '.' :: '.' :: _ => false
  | c :: rest => !isLeader c && !(c ∈ ['?', ':', '-'] && beforeSpace rest)
  | [] => true

/-- Whether a space and a line feed stand next to each other. -/
def hasLooseBreak : List Char → Bool
  | ' ' :: '\n' :: _ | '\n' :: ' ' :: _ => true
  | _ :: rest => hasLooseBreak rest
  | [] => false

/-- The style of a text. -/
def ofText (text : String) : Style :=
  let chars := text.toList
  if !chars.all isSimple || hasLooseBreak chars then .double
  else if Tag.ofPlain text = .text && '\n' ∉ chars && chars.head? != some ' ' &&
      chars.getLast? != some ' ' && isBegun chars && isContinued chars then .plain
  else .single

end Style

/-! ## Writing with a width -/

/-- What has been written, last character first, and the column that was reached. -/
structure Pen where
  column : Nat
  written : List Char := []

namespace Pen

/-- Columns after which a line is folded. -/
def width : Nat := 80

def put (p : Pen) (chars : List Char) : Pen :=
  { column := p.column + chars.length, written := chars.reverse ++ p.written }

def breakLine (p : Pen) : Pen := { column := 0, written := '\n' :: p.written }

/-- A new line with that many spaces. -/
def nextLine (p : Pen) (indent : Nat) : Pen := p.breakLine.put (List.replicate indent ' ')

/-- Writes runs of spaces, of line feeds and of other characters, in which a quote is doubled if
it stands between quotes.  A line feed is written as two. -/
def putRuns (indent : Nat) (doubled : Bool) : Bool → List (List Char) → Pen → Pen
  | _, [], p => p
  | isFirst, run :: rest, p =>
    let p :=
      if run = [' '] && !isFirst && !rest.isEmpty && width < p.column then p.nextLine indent
      else if run.head? = some '\n' then
        (run.foldl (fun p _ => p.breakLine) p).nextLine indent
      else p.put (run.flatMap fun c => if doubled && c == '\'' then ['\'', '\''] else [c])
    putRuns indent doubled false rest p

/-- The runs of a text. -/
def runs (chars : List Char) : List (List Char) :=
  chars.splitBy fun a b => (a == ' ') == (b == ' ') && (a == '\n') == (b == '\n')

/-- An upper-case hexadecimal escape. -/
def escapeCode (mark : Char) (size n : Nat) : List Char :=
  '\\' :: mark :: (hexadecimal size n).map Char.toUpper

/-- The escape of the character of a number, if it has one. -/
def escape? (n : Nat) : Option (List Char) :=
  let named := [('\x00', '0'), ('\x07', 'a'), ('\x08', 'b'), ('\t', 't'), ('\n', 'n'), ('\x0b', 'v'),
    ('\x0c', 'f'), ('\r', 'r'), ('\x1b', 'e'), ('"', '"'), ('\\', '\\'), ('\x85', 'N'),
    ('\xa0', '_'), ('\u2028', 'L'), ('\u2029', 'P')]
  match named.find? (·.1.toNat == n) with
  | some (_, letter) => some ['\\', letter]
  | none =>
    if ' '.toNat ≤ n && n ≤ '~'.toNat then none
    else if n ≤ 0xff then some (escapeCode 'x' 2 n)
    else if n ≤ 0xffff then some (escapeCode 'u' 4 n)
    else some (escapeCode 'U' 8 n)

/-- Folds a line within double quotes; a space that comes next is escaped. -/
def foldEscaped (indent : Nat) (next : Option Nat) (p : Pen) : Pen :=
  let p := (p.put ['\\']).nextLine indent
  if next = some ' '.toNat then p.put ['\\'] else p

/-- Writes the characters of some numbers within double quotes.  Those without an escape are held
back (last one first) until it is known that they fit. -/
def putEscaped (indent : Nat) : Bool → List Char → List Nat → Pen → Pen
  | _, held, [], p => p.put held.reverse
  | isFirst, held, n :: rest, p =>
    let mayFold := !isFirst && !rest.isEmpty
    match escape? n with
    | some chars =>
      let p := (p.put held.reverse).put chars
      let p := if mayFold && width + 1 < p.column then p.foldEscaped indent rest.head? else p
      putEscaped indent false [] rest p
    | none =>
      let c := Char.ofNat n
      if mayFold && (c == ' ' || held.isEmpty) && width < p.column + held.length then
        putEscaped indent false [c] rest ((p.put held.reverse).foldEscaped indent (some n))
      else putEscaped indent false (c :: held) rest p

end Pen

/-- A text as it is written from a column on.  The lines after the first have that many spaces in
front. -/
def scalarText (column indent : Nat) (text : String) : String :=
  let chars := text.toList
  let start : Pen := { column }
  let finished := match Style.ofText text with
    | .plain => start.putRuns indent false true (Pen.runs chars)
    | .single => ((start.put ['\'']).putRuns indent true true (Pen.runs chars)).put ['\'']
    | .double => ((start.put ['"']).putEscaped indent true [] (Surrogate.codes chars)).put ['"']
  String.ofList finished.written.reverse

end RobotWorkshop.Yaml
