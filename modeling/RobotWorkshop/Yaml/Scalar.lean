import RobotWorkshop.Yaml.Cursor
import RobotWorkshop.Yaml.Fault

/-!
Scalars: plain ones, quoted ones and blocks of text.  Each function reads one scalar from its
first character on and answers its text and the place behind it, unless the scalar is
malformed.  Breaks between the lines of plain and quoted scalars are folded.
-/

namespace RobotWorkshop.Yaml

/-- How a folded break is written: one break is a space, more of them lose the first. -/
def folded (first : List Char) (more : List Char) : List Char :=
  if first ≠ ['\n'] then first ++ more else if more.isEmpty then [' '] else more

/-! ## Plain scalars -/

/-- Blanks and further breaks after a break; none when a mark between documents is met. -/
def plainBreaks (c : Cursor) (breaks : List Char) : (fuel : Nat) → Option (List Char) × Cursor
  | 0 => (some breaks, c)
  | fuel + 1 =>
    if c.peek == ' ' then plainBreaks c.next breaks fuel
    else if isBreak c.peek then
      let (b, c) := c.lineBreak
      if c.atSeparator then (none, c) else plainBreaks c (breaks ++ b) fuel
    else (some breaks, c)

/-- What stands between two words of a plain scalar. -/
structure PlainGap where
  text : List Char
  cursor : Cursor
  /-- A line ended in the gap. -/
  broken : Bool

def plainGap (c : Cursor) : PlainGap :=
  let (blanks, c) := c.span (· == ' ')
  if isBreak c.peek then
    let (first, c) := c.lineBreak
    if c.atSeparator then ⟨[], c, true⟩
    else match plainBreaks c [] (c.rest.length + 1) with
      | (none, c) => ⟨[], c, true⟩
      | (some more, c) => ⟨folded first more, c, true⟩
  else ⟨blanks, c, false⟩

/-- The length of the word at the start of a text. -/
def plainWord (inFlow : Bool) : List Char → Nat
  | [] => 0
  | x :: rest =>
    let after := rest.head?.getD past
    let ends := isGap x ||
      (x == ':' && (isGap after || (inFlow && after ∈ [',', '[', ']', '\x7b', '\x7d']))) ||
      (inFlow && x ∈ [',', '?', '[', ']', '\x7b', '\x7d'])
    if ends then 0 else plainWord inFlow rest + 1

/-- A plain scalar that was read. -/
structure Plain where
  text : List Char
  cursor : Cursor
  /-- The scalar is followed by the end of its line. -/
  broken : Bool

def plainFrom (inFlow : Bool) (indent : Int) (read : Plain) (gap : List Char) : (fuel : Nat) → Plain
  | 0 => read
  | fuel + 1 =>
    let c := read.cursor
    let length := plainWord inFlow c.rest
    if c.peek == '#' || length = 0 then read
    else
      let text := read.text ++ gap ++ c.rest.take length
      let after := plainGap (c.skip length)
      let read : Plain := ⟨text, after.cursor, after.broken⟩
      if after.text.isEmpty || after.cursor.peek == '#' ||
          (!inFlow && (after.cursor.column : Int) < indent) then read
      else plainFrom inFlow indent read after.text fuel

/-- Reads a plain scalar whose further lines stand at `indent` or deeper. -/
def plain (inFlow : Bool) (indent : Int) (c : Cursor) : Plain :=
  plainFrom inFlow indent ⟨[], c, false⟩ [] (c.rest.length + 1)

/-! ## Quoted scalars -/

/-- Breaks and blanks within quotes; none when a mark between documents is met. -/
def quotedBreaks (c : Cursor) (breaks : List Char) : (fuel : Nat) → Option (List Char × Cursor)
  | 0 => none
  | fuel + 1 =>
    if c.atSeparator then none
    else
      let c := c.skipWhile fun x => x == ' ' || x == '\t'
      if isBreak c.peek then
        let (b, c) := c.lineBreak
        quotedBreaks c (breaks ++ b) fuel
      else some (breaks, c)

/-- The character that stands for an escape of one letter. -/
def escapeLetter? : Char → Option Char
  | '0' => some '\x00'
  | 'a' => some '\x07'
  | 'b' => some '\x08'
  | 't' => some '\t'
  | '\t' => some '\t'
  | 'n' => some '\n'
  | 'v' => some '\x0b'
  | 'f' => some '\x0c'
  | 'r' => some '\r'
  | 'e' => some '\x1b'
  | ' ' => some ' '
  | '"' => some '"'
  | '\\' => some '\\'
  | '/' => some '/'
  | 'N' => some '\x85'
  | '_' => some '\xa0'
  | 'L' => some '\u2028'
  | 'P' => some '\u2029'
  | _ => none

/-- The number of hexadecimal digits after an escape. -/
def escapeWidth? : Char → Option Nat
  | 'x' => some 2
  | 'u' => some 4
  | 'U' => some 8
  | _ => none

def hexDigit? (c : Char) : Option Nat :=
  if c.isDigit then some (c.toNat - '0'.toNat)
  else if 'a' ≤ c ∧ c ≤ 'f' then some (c.toNat - 'a'.toNat + 10)
  else if 'A' ≤ c ∧ c ≤ 'F' then some (c.toNat - 'A'.toNat + 10)
  else none

/-- The number that some hexadecimal digits stand for. -/
def hexNumber? (digits : List Char) : Option Nat :=
  digits.foldlM (fun n c => (hexDigit? c).map (16 * n + ·)) 0

/-- The character of an escape by number, which may be half of a character. -/
def escapedChar (n : Nat) : Result (List Char) :=
  if n.isValidChar || Surrogate.isCode n then .ok (Surrogate.ofCode n)
  else .error (if n < 0x80000000 then .noCharacter else .escapeTooLarge)

/-- An escape, from the character after the backslash on. -/
def escape (c : Cursor) : Result (List Char × Cursor) :=
  match escapeLetter? c.peek, escapeWidth? c.peek with
  | some x, _ => .ok ([x], c.next)
  | none, some width => do
    let digits := c.next.rest.take width
    let n ← known (if digits.length < width then none else hexNumber? digits)
    return (← escapedChar n, c.next.skip width)
  | none, none =>
    if isBreak c.peek then
      let c := c.lineBreak.2
      known (quotedBreaks c [] (c.rest.length + 1))
    else .error .malformed

/-- Blanks within quotes, which are kept, or breaks, which are folded. -/
def quotedGap? (c : Cursor) : Option (List Char × Cursor) :=
  let (blanks, c) := c.span fun x => x == ' ' || x == '\t'
  if c.peek == past then none
  else if isBreak c.peek then
    let (first, c) := c.lineBreak
    (quotedBreaks c [] (c.rest.length + 1)).map fun (more, c) => (folded first more, c)
  else some (blanks, c)

def quotedFrom (quote : Char) (text : List Char) (c : Cursor) : (fuel : Nat) →
    Result (List Char × Cursor)
  | 0 => .error .malformed
  | fuel + 1 =>
    let x := c.peek
    if x == quote then
      if quote == '\'' && c.ahead 1 == '\'' then quotedFrom quote (text ++ ['\'']) (c.skip 2) fuel
      else .ok (text, c.next)
    else if isGap x then do
      let (gap, c) ← known (quotedGap? c)
      quotedFrom quote (text ++ gap) c fuel
    else if quote == '"' && x == '\\' then do
      let (escaped, c) ← escape c.next
      quotedFrom quote (text ++ escaped) c fuel
    else
      let (run, c) := c.span fun x => !(isGap x || x == '\'' || x == '"' || x == '\\')
      if run.isEmpty then quotedFrom quote (text ++ [x]) c.next fuel
      else quotedFrom quote (text ++ run) c fuel

/-- Reads a scalar between quotes, from the opening quote on. -/
def quotedScalar (c : Cursor) : Result (List Char × Cursor) :=
  quotedFrom c.peek [] c.next (c.rest.length + 1)

/-! ## Blocks -/

/-- What happens to the breaks at the end of a block. -/
inductive Chomping where
  | clip
  | strip
  | keep
deriving DecidableEq

/-- The head of a block: chomping and the depth of its indentation, in either order. -/
def blockHead? (c : Cursor) : Option (Chomping × Option Nat × Cursor) :=
  let chomping (c : Cursor) : Chomping × Cursor :=
    match c.peek with
    | '+' => (.keep, c.next)
    | '-' => (.strip, c.next)
    | _ => (.clip, c)
  let depth (c : Cursor) : Option Nat × Cursor :=
    if c.peek.isDigit then (some (c.peek.toNat - '0'.toNat), c.next) else (none, c)
  let (mode, depth, c) :=
    if c.peek == '+' || c.peek == '-' then
      let (mode, c) := chomping c
      let (depth, c) := depth c
      (mode, depth, c)
    else
      let (depth, c) := depth c
      let (mode, c) := if depth.isSome then chomping c else (.clip, c)
      (mode, depth, c)
  if depth = some 0 || !(c.peek == ' ' || isBreakOrPast c.peek) then none
  else c.restOfLine?.map fun c => (mode, depth, c)

/-- Empty lines before a block, and the deepest column met in them. -/
def blockIndent (c : Cursor) (breaks : List Char) (deepest : Nat) :
    (fuel : Nat) → List Char × Nat × Cursor
  | 0 => (breaks, deepest, c)
  | fuel + 1 =>
    if c.peek == ' ' then blockIndent c.next breaks (max deepest c.next.column) fuel
    else if isBreak c.peek then
      let (b, c) := c.lineBreak
      blockIndent c (breaks ++ b) deepest fuel
    else (breaks, deepest, c)

/-- Blanks up to a column. -/
def indentTo (column : Nat) (c : Cursor) : Cursor :=
  c.skip (c.rest.take (column - c.column) |>.takeWhile (· == ' ')).length

/-- Empty lines within a block. -/
def blockBreaks (column : Nat) (c : Cursor) (breaks : List Char) : (fuel : Nat) → List Char × Cursor
  | 0 => (breaks, c)
  | fuel + 1 =>
    if isBreak c.peek then
      let (b, c) := c.lineBreak
      blockBreaks column (indentTo column c) (breaks ++ b) fuel
    else (breaks, c)

/-- The lines of a block at `column`, after the empty lines `breaks`.  The answer is the text
without its last break, that break, the empty lines behind it and the place where the block ends. -/
def blockLines (fold : Bool) (column : Nat) (c : Cursor) (text last breaks : List Char) :
    (fuel : Nat) → List Char × List Char × List Char × Cursor
  | 0 => (text, last, breaks, c)
  | fuel + 1 =>
    if c.column = column && c.peek != past then
      let starts := !(c.peek == ' ' || c.peek == '\t')
      let (line, after) := c.span (!isBreak ·)
      let text := text ++ breaks ++ line
      let (last, after) := after.lineBreak
      let after := indentTo column after
      let (breaks, after) := blockBreaks column after [] (after.rest.length + 1)
      if after.column = column && after.peek != past then
        let joins := fold && last == ['\n'] && starts && !(after.peek == ' ' || after.peek == '\t')
        let joint := if joins then (if breaks.isEmpty then [' '] else []) else last
        blockLines fold column after (text ++ joint) last breaks fuel
      else (text, last, breaks, after)
    else (text, last, breaks, c)

/-- Reads a block of text, from its mark on, within an indentation of `indent`. -/
def block? (indent : Int) (c : Cursor) : Option (List Char × Cursor) := do
  let fold := c.peek == '>'
  let (mode, depth, c) ← blockHead? c.next
  let least := (max (indent + 1) 1).toNat
  let fuel := c.rest.length + 1
  let (column, breaks, c) := match depth with
    | none =>
      let (breaks, deepest, c) := blockIndent c [] 0 fuel
      (max least deepest, breaks, c)
    | some depth =>
      let column := least + depth - 1
      let (breaks, c) := blockBreaks column (indentTo column c) [] fuel
      (column, breaks, c)
  let (text, last, breaks, c) := blockLines fold column c [] [] breaks fuel
  return (match mode with
    | .strip => text
    | .clip => text ++ last
    | .keep => text ++ last ++ breaks, c)

end RobotWorkshop.Yaml
