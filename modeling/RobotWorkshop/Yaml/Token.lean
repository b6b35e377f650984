import RobotWorkshop.Number.Numeral
import RobotWorkshop.Yaml.Scalar

/-!
The tokens of a document.  Indentation opens and closes blocks.  Whether something is a key shows
only at the colon behind it: every token that may turn out to be one is remembered, one for each
level of brackets, and the mark of a key is put in front of it afterwards.  What is remembered is
given up at the end of the line, or after 1024 characters.

A text that cannot be read to its end still has tokens.  They are those that were settled when
reading stopped, and the cause follows them, so that the first thing that is wrong with a document
decides.
-/

namespace RobotWorkshop.Yaml

inductive Token where
  | version (major : Nat)
  /-- A handle for tags, and the beginning of a tag that it stands for. -/
  | handle (name start : String)
  | otherDirective
  | documentStart
  | documentEnd
  | blockSequence
  | blockMapping
  | blockEnd
  | openSequence
  | closeSequence
  | openMapping
  | closeMapping
  | blockItem
  | comma
  | key
  | value
  | alias (name : String)
  | anchor (name : String)
  | tag (handle : Option String) (suffix : String)
  | scalar (text : String) (isPlain : Bool)
  /-- What stands where reading stopped. -/
  | broken (cause : DocumentFault)
deriving DecidableEq, Repr

/-! ## Tags and directives -/

/-- The bytes of percent escapes. -/
def percentBytes (c : Cursor) (bytes : List UInt8) : (fuel : Nat) → Option (List UInt8 × Cursor)
  | 0 => none
  | fuel + 1 =>
    if c.peek == '%' then
      match hexDigit? (c.ahead 1), hexDigit? (c.ahead 2) with
      | some high, some low => percentBytes (c.skip 3) (bytes ++ [UInt8.ofNat (16 * high + low)]) fuel
      | _, _ => none
    else some (bytes, c)

def isUriChar (c : Char) : Bool := c.isAlphanum || "-;/?:@&=+$,_.!~*'()[]".toList.contains c

def uriFrom (text : List Char) (c : Cursor) : (fuel : Nat) → Option (List Char × Cursor)
  | 0 => none
  | fuel + 1 =>
    if c.peek == '%' then do
      let (bytes, c) ← percentBytes c [] (c.rest.length + 1)
      let decoded ← String.fromUTF8? ⟨bytes.toArray⟩
      uriFrom (text ++ decoded.toList) c fuel
    else
      let (run, c) := c.span isUriChar
      if run.isEmpty then (if text.isEmpty then none else some (text, c))
      else uriFrom (text ++ run) c fuel

/-- The text of a tag, which is not empty. -/
def uri? (c : Cursor) : Option (String × Cursor) :=
  (uriFrom [] c (c.rest.length + 1)).map fun (text, c) => (String.ofList text, c)

/-- A handle for tags: a mark, or a word between two marks. -/
def handle? (c : Cursor) : Option (String × Cursor) :=
  if c.peek ≠ '!' then none
  else if c.ahead 1 == ' ' then some ("!", c.next)
  else
    let (word, c) := c.next.span isWordChar
    if c.peek == '!' then some ("!" ++ String.ofList word ++ "!", c.next) else none

/-- A tag, from its mark on. -/
def tag? (c : Cursor) : Option (Token × Cursor) := do
  let (token, c) ←
    if c.ahead 1 == '<' then do
      let (suffix, c) ← uri? (c.skip 2)
      if c.peek == '>' then some (Token.tag none suffix, c.next) else none
    else if isGap (c.ahead 1) then some (Token.tag none "!", c.next)
    else do
      let word := c.next.rest.takeWhile fun x => !(x == ' ' || isBreak x)
      let (handle, c) ← if word.contains '!' then handle? c else some ("!", c.next)
      let (suffix, c) ← uri? c
      some (Token.tag (some handle) suffix, c)
  if c.peek == ' ' || isBreakOrPast c.peek then some (token, c) else none

/-- The name behind the mark of an anchor or an alias. -/
def anchorName? (c : Cursor) : Option (String × Cursor) :=
  let (name, c) := c.next.span isWordChar
  if name.isEmpty then none
  else if isGap c.peek || "?:,]\x7d%@`".toList.contains c.peek then some (String.ofList name, c)
  else none

/-- A directive, from its mark to the end of its line. -/
def directive? (c : Cursor) : Option (Token × Cursor) := do
  let blank := fun x : Char => x == ' '
  let ends := fun c : Cursor => c.peek == ' ' || isBreakOrPast c.peek
  let (name, c) := c.next.span isWordChar
  if name.isEmpty || !ends c then none
  else match String.ofList name with
    | "YAML" => do
      let (major, c) := (c.skipWhile blank).span Char.isDigit
      if major.isEmpty || c.peek ≠ '.' then none
      else
        let (minor, c) := c.next.span Char.isDigit
        if minor.isEmpty || !ends c then none
        else c.restOfLine?.map fun c => (.version (Numeral.value major), c)
    | "TAG" => do
      let (handle, c) ← handle? (c.skipWhile blank)
      if c.peek ≠ ' ' then none
      else
        let (start, c) ← uri? (c.skipWhile blank)
        if !ends c then none else c.restOfLine?.map fun c => (.handle handle start, c)
    | _ => (c.skipWhile (!isBreak ·)).restOfLine?.map fun c => (.otherDirective, c)

/-! ## The lexer -/

/-- A token that may turn out to be a key. -/
structure Candidate where
  /-- The number of tokens in front of it. -/
  position : Nat
  /-- In a block mapping it can be nothing else. -/
  required : Bool
  index : Nat
  line : Nat
  column : Nat

structure Lexer where
  cursor : Cursor
  tokens : Array Token := #[]
  /-- The level of brackets. -/
  depth : Nat := 0
  indent : Int := -1
  /-- The indentations of the blocks around the current one. -/
  outer : List Int := []
  keyAllowed : Bool := true
  /-- The candidates, by level of brackets. -/
  candidates : List (Nat × Candidate) := []

namespace Lexer

def inFlow (l : Lexer) : Bool := l.depth ≠ 0

def column (l : Lexer) : Int := l.cursor.column

def push (l : Lexer) (t : Token) : Lexer := { l with tokens := l.tokens.push t }

def candidate? (l : Lexer) : Option Candidate :=
  (l.candidates.find? (·.1 = l.depth)).map (·.2)

def withoutCandidate (l : Lexer) : Lexer :=
  { l with candidates := l.candidates.filter (·.1 ≠ l.depth) }

/-- Gives the candidate of this level up; one that is required may not be given up. -/
def dropCandidate? (l : Lexer) : Option Lexer :=
  if l.candidate?.any (·.required) then none else some l.withoutCandidate

/-- Whether the time of a candidate is over. -/
def isStale (l : Lexer) (k : Candidate) : Bool :=
  k.line ≠ l.cursor.line || 1024 < l.cursor.index - k.index

/-- Gives up the candidates whose time is over. -/
def dropStale? (l : Lexer) : Option Lexer :=
  if l.candidates.any fun (_, k) => l.isStale k && k.required then none
  else some { l with candidates := l.candidates.filter fun (_, k) => !l.isStale k }

/-- The tokens in front of which nothing can be put any more. -/
def settled (l : Lexer) : Array Token :=
  l.candidates.foldl (fun tokens (_, k) => if l.isStale k then tokens else tokens.take k.position)
    l.tokens

/-- Remembers the next token as a candidate, where a key may stand. -/
def remember? (l : Lexer) : Option Lexer :=
  if l.keyAllowed then
    let k : Candidate :=
      { position := l.tokens.size
        required := !l.inFlow && l.indent = l.column
        index := l.cursor.index
        line := l.cursor.line
        column := l.cursor.column }
    l.dropCandidate?.map fun l => { l with candidates := (l.depth, k) :: l.candidates }
  else some l

/-- Closes the blocks that are indented deeper than a column. -/
def unwind (l : Lexer) (column : Int) : Lexer :=
  if l.inFlow then l else go l.outer l
where
  go : List Int → Lexer → Lexer
    | [], l => l
    | indent :: outer, l =>
      if column < l.indent then go outer ({ l with indent, outer }.push .blockEnd) else l

/-- Opens a block at a column that lies deeper than the current one. -/
def openBlock (l : Lexer) (column : Nat) (position : Nat) (t : Token) : Lexer :=
  if l.indent < column then
    { l with
      indent := column
      outer := l.indent :: l.outer
      tokens := l.tokens.insertIdxIfInBounds position t }
  else l

def advance (l : Lexer) (n : Nat) : Lexer := { l with cursor := l.cursor.skip n }

/-- Blanks, comments and line ends in front of a token; a line end allows a key outside of
brackets. -/
def skipBlank (l : Lexer) : (fuel : Nat) → Lexer
  | 0 => l
  | fuel + 1 =>
    let c := l.cursor.skipWhile (· == ' ')
    let c := if c.peek == '#' then c.skipWhile (!isBreak ·) else c
    if isBreak c.peek then
      { l with cursor := c.lineBreak.2, keyAllowed := l.keyAllowed || !l.inFlow }.skipBlank fuel
    else { l with cursor := c }

/-! Each function reads the token at the cursor. -/

/-- The marks between documents. -/
def separator? (l : Lexer) (t : Token) : Option Lexer :=
  (l.unwind (-1)).dropCandidate?.map fun l => ({ l with keyAllowed := false }.push t).advance 3

def openFlow? (l : Lexer) (t : Token) : Option Lexer :=
  l.remember?.map fun l =>
    ({ l with depth := l.depth + 1, keyAllowed := true }.push t).advance 1

def closeFlow? (l : Lexer) (t : Token) : Option Lexer :=
  if l.depth = 0 then none
  else l.dropCandidate?.map fun l =>
    ({ l with depth := l.depth - 1, keyAllowed := false }.push t).advance 1

def comma? (l : Lexer) : Option Lexer :=
  (dropCandidate? { l with keyAllowed := true }).map fun l => (l.push .comma).advance 1

/-- The mark of an item or of a key, which may open a block. -/
def blockMark? (l : Lexer) (opening t : Token) (keyAllowed : Bool) : Option Lexer :=
  if !l.inFlow && !l.keyAllowed then none
  else
    let l := if l.inFlow then l else l.openBlock l.cursor.column l.tokens.size opening
    (dropCandidate? { l with keyAllowed }).map fun l => (l.push t).advance 1

/-- The mark of a value.  A candidate becomes the key in front of it. -/
def value? (l : Lexer) : Option Lexer :=
  match l.candidate? with
  | some k =>
    let l := l.withoutCandidate
    let l := { l with tokens := l.tokens.insertIdxIfInBounds k.position .key }
    let l := if l.inFlow then l else l.openBlock k.column k.position .blockMapping
    some (({ l with keyAllowed := false }.push .value).advance 1)
  | none => l.blockMark? .blockMapping .value (!l.inFlow)

/-- A token that may be a key. -/
def keyLike (l : Lexer) (read : Cursor → Result (Token × Cursor)) : Result Lexer := do
  let l ← known l.remember?
  let (t, cursor) ← read l.cursor
  return push { l with keyAllowed := false, cursor } t

def named (make : String → Token) (c : Cursor) : Result (Token × Cursor) :=
  known ((anchorName? c).map fun (name, c) => (make name, c))

def quotedToken (c : Cursor) : Result (Token × Cursor) :=
  (quotedScalar c).map fun (text, c) => (.scalar (String.ofList text) false, c)

def directiveToken? (l : Lexer) : Option Lexer := do
  let l ← (l.unwind (-1)).dropCandidate?
  let (t, cursor) ← directive? l.cursor
  return push { l with keyAllowed := false, cursor } t

def blockScalar? (l : Lexer) : Option Lexer := do
  let l ← dropCandidate? { l with keyAllowed := true }
  let (text, cursor) ← block? l.indent l.cursor
  return push { l with cursor } (.scalar (String.ofList text) false)

def plainScalar? (l : Lexer) : Option Lexer :=
  l.remember?.map fun l =>
    let read := plain l.inFlow (l.indent + 1) l.cursor
    { l with keyAllowed := read.broken, cursor := read.cursor }.push
      (.scalar (String.ofList read.text) true)

/-- Whether a plain scalar may begin at the cursor. -/
def atPlain (l : Lexer) : Bool :=
  let x := l.cursor.peek
  !(isGap x || "-?:,[]\x7b\x7d#&*!|>'\"%@`".toList.contains x) ||
    (!isGap (l.cursor.ahead 1) && (x == '-' || (!l.inFlow && (x == '?' || x == ':'))))

/-- Reads one token; the cursor stands on its first character. -/
def token (l : Lexer) : Result Lexer :=
  let c := l.cursor
  let x := c.peek
  let apart := isGap (c.ahead 1)
  let atStart := c.column = 0
  if x == '%' && atStart then known l.directiveToken?
  else if atStart && c.atTriple '-' then known (l.separator? .documentStart)
  else if atStart && c.atTriple '.' then known (l.separator? .documentEnd)
  else if x == '[' then known (l.openFlow? .openSequence)
  else if x == '\x7b' then known (l.openFlow? .openMapping)
  else if x == ']' then known (l.closeFlow? .closeSequence)
  else if x == '\x7d' then known (l.closeFlow? .closeMapping)
  else if x == ',' then known l.comma?
  else if x == '-' && apart then known (l.blockMark? .blockSequence .blockItem true)
  else if x == '?' && (l.inFlow || apart) then known (l.blockMark? .blockMapping .key (!l.inFlow))
  else if x == ':' && (l.inFlow || apart) then known l.value?
  else if x == '*' then l.keyLike (named .alias)
  else if x == '&' then l.keyLike (named .anchor)
  else if x == '!' then l.keyLike fun c => known (tag? c)
  else if (x == '|' || x == '>') && !l.inFlow then known l.blockScalar?
  else if x == '\'' || x == '"' then l.keyLike quotedToken
  else if l.atPlain then known l.plainScalar?
  else .error .malformed

/-- Reads the next token, or what the end of the text closes; the cursor stands there. -/
def tokenOrEnd (l : Lexer) : Result Lexer := do
  let l ← known l.dropStale?
  let l := l.unwind l.column
  if l.cursor.peek == past then known (l.unwind (-1)).dropCandidate? else l.token

/-- Reads on as far as possible. -/
def finish (l : Lexer) : (fuel : Nat) → Array Token
  | 0 => l.settled.push (.broken .malformed)
  | fuel + 1 =>
    let start := l.skipBlank (l.cursor.rest.length + 1)
    match start.tokenOrEnd with
    | .error cause => l.settled.push (.broken cause)
    | .ok l => if start.cursor.peek == past then l.tokens else l.finish fuel

end Lexer

/-- The tokens of a text. -/
def Token.scan (text : List Char) : List Token :=
  if text.all isAllowed then
    let start : Cursor := { rest := text }
    let cursor := if start.peek == byteOrderMark then start.next else start
    (Lexer.finish { cursor } (text.length + 2)).toList
  else [.broken .malformed]

end RobotWorkshop.Yaml
