import RobotWorkshop.Number.Layout
import RobotWorkshop.Settings.Value
import RobotWorkshop.Text.Wording
import RobotWorkshop.Yaml.Style

/-!
Values as documents, in block style.  The entries of a mapping are sorted by their keys and
indented by two spaces; the dashes of a list stand under the key that it belongs to.  Empty lists
and mappings are written inline.  No settings hold sets or bytes, and these are written as empty
lists.
-/

namespace RobotWorkshop.Yaml

/-- Floats in a document have a point also before an exponent. -/
def floatLayout : Layout := { pointBeforeMark := true, infinity := ".inf", undefined := ".nan" }

/-! ## Lines -/

namespace Block

def emptyList : String := "[]"

def emptyMapping : String := "\x7b\x7d"

/-- A value on one line, from a column on, if it is no collection with something in it. -/
def inlineText (column indent : Nat) : Value → String
  | .null => "null"
  | .boolean b => if b then "true" else "false"
  | .integer n => toString n
  | .float x => floatLayout.render x
  | .text s => scalarText column indent s
  | .list _ | .set _ | .bytes _ => emptyList
  | .mapping _ => emptyMapping
  | .date d => d.text
  | .moment m => m.text

/-- The columns by which the parts of a collection are set off. -/
def step : Nat := 2

/-- The further indentation of a value under its key. -/
def setOff : Value → Nat
  | .list _ => 0
  | _ => step

def indented (lines : List String) : List String := lines.map ("  " ++ ·)

/-- Lines of which the first has a dash in front. -/
def dashed : List String → List String
  | [] => []
  | first :: rest => ("- " ++ first) :: indented rest

/-- The lines of an entry, given the value's own lines if it is a collection with something in
it. -/
def entryLines (indent : Nat) (key : String) (value : Value) (inner : List String) : List String :=
  match value with
  | .list (_ :: _) => (key ++ ":") :: inner
  | .mapping (_ :: _) => (key ++ ":") :: indented inner
  | value => [key ++ ": " ++ inlineText (indent + key.length + 2) (indent + step) value]

mutual

/-- The lines of a value that stands at an indentation, which is not part of them. -/
def lines (indent : Nat) : Value → List String
  | .list children => if children.isEmpty then [emptyList] else items indent children
  | .mapping children =>
    if children.isEmpty then [emptyMapping]
    else ((entries indent children).mergeSort fun a b => a.1 ≤ b.1).flatMap (·.2)
  | value => [inlineText indent indent value]

def items (indent : Nat) : List Value → List String
  | [] => []
  | item :: rest => dashed (lines (indent + step) item) ++ items indent rest

/-- The keys of a mapping, each with the lines of its entry. -/
def entries (indent : Nat) : List (Value × Value) → List (String × List String)
  | [] => []
  | (key, value) :: rest =>
    let name := inlineText indent indent key
    (name, entryLines indent name value (lines (indent + setOff value) value)) ::
      entries indent rest

end

end Block

/-! ## Documents -/

mutual

/-- Whether all integers in a value can be written. -/
def isWritable : Value → Bool
  | .integer n => RobotWorkshop.isWritable n
  | .list items => areWritable items
  | .mapping entries => areEntriesWritable entries
  | _ => true

def areWritable : List Value → Bool
  | [] => true
  | item :: rest => isWritable item && areWritable rest

def areEntriesWritable : List (Value × Value) → Bool
  | [] => true
  | (key, value) :: rest => isWritable key && isWritable value && areEntriesWritable rest

end

/-- The text of a document that holds a list or a mapping. -/
def write (value : Value) : String :=
  String.join ((Block.lines 0 value).map (· ++ "\n"))

end RobotWorkshop.Yaml
