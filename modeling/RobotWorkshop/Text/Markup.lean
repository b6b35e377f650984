import RobotWorkshop.Text.Emoji
import RobotWorkshop.Text.Markup.Style

/-!
Marked-up text on a console.  A tag is a word in brackets, such as `[bold]`; it changes how the text
after it looks and is not shown itself.  A tag with a slash closes the one that it names, or the
last one if it names none, and has to find one to close.  A bracket that is to be shown has a
backslash in front.  What stands between the tags may hold pictures by name.
-/

namespace RobotWorkshop

/-- What is wrong with a marked-up text; the position is that of a tag in it. -/
inductive MarkupFault where
  | notOpen (tag : String) (position : Nat)
  | nothingOpen (position : Nat)
deriving DecidableEq, Repr

def MarkupFault.message : MarkupFault → String
  | .notOpen tag position =>
    s!"closing tag '[{tag}]' at position {position} doesn't match any open tag"
  | .nothingOpen position => s!"closing tag '[/]' at position {position} has nothing to close"

namespace Markup

/-- Whether a character may begin a tag. -/
def isTagStart (c : Char) : Bool := c.isLower || c == '#' || c == '/' || c == '@'

/-- The word of the tag at the front of a text, and what follows the tag. -/
def tag? : List Char → Option (List Char × List Char)
  | '[' :: c :: rest =>
    let word := rest.takeWhile fun c => c != '[' && c != ']'
    match rest.drop word.length with
    | ']' :: after => if isTagStart c then some (c :: word, after) else none
    | _ => none
  | _ => none

/-- A part of a marked-up text. -/
inductive Piece where
  | plain (text : List Char)
  /-- A tag, and its position. -/
  | tag (word : List Char) (position : Nat)

/-- Adds a text in front of some pieces, if there is any. -/
def withPlain (text : List Char) (pieces : List Piece) : List Piece :=
  if text.isEmpty then pieces else .plain text :: pieces

/-- The pieces of a text that stands at a position; `held` is the plain text right in front of it,
last character first.  Before a tag two backslashes stand for one, and a single one left over makes
the tag plain text. -/
def piecesFrom (held : List Char) (position : Nat) : List Char → (skip : Nat) → List Piece
  | [], _ => withPlain held.reverse []
  | _ :: rest, skip + 1 => piecesFrom held (position + 1) rest skip
  | c :: rest, 0 =>
    let slashes := ((c :: rest).takeWhile (· == '\\')).length
    match tag? ((c :: rest).drop slashes) with
    | some (word, _) =>
      let pairs := slashes / 2
      let length := slashes + word.length + 2
      let here := if slashes % 2 = 1 then Piece.plain ('[' :: word ++ [']'])
        else .tag word (position + 2 * pairs)
      withPlain held.reverse (withPlain (List.replicate pairs '\\')
        (here :: piecesFrom [] (position + 1) rest (length - 1)))
    | none => piecesFrom (c :: held) (position + 1) rest 0

def pieces (text : List Char) : List Piece := piecesFrom [] 0 text 0

/-- A text in which a backslash before a bracket is dropped. -/
def unescaped : List Char → List Char
  | '\\' :: '[' :: rest => '[' :: unescaped rest
  | c :: rest => c :: unescaped rest
  | [] => []

/-- Removes the tag of a style from the open ones, last one first. -/
def close? (style : String) (opened : List String) : Option (List String) :=
  if style ∈ opened then some (opened.erase style) else none

/-- What is shown of some pieces, given the styles of the tags that are open, last one first. -/
def shownPieces (opened : List String) : List Piece → Except MarkupFault (List Char)
  | [] => .ok []
  | .plain text :: rest => (shownPieces opened rest).map (Emoji.shown (unescaped text) ++ ·)
  | .tag word position :: rest =>
    let name := word.takeWhile (· ≠ '=')
    match name with
    | '/' :: name =>
      if (trimSpacing name).isEmpty then
        match opened with
        | [] => .error (.nothingOpen position)
        | _ :: opened => shownPieces opened rest
      else match close? (Style.normalized (trimSpacing name)) opened with
        | some opened => shownPieces opened rest
        | none => .error (.notOpen (String.ofList word) position)
    | name => shownPieces (Style.normalized name :: opened) rest

/-- What a console shows of a text. -/
def shown (text : List Char) : Except MarkupFault (List Char) :=
  if '[' ∈ text then shownPieces [] (pieces text) else .ok (Emoji.shown text)

end Markup

end RobotWorkshop
