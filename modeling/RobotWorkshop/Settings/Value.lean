import RobotWorkshop.Calendar.Moment
import RobotWorkshop.Number.Binary

/-!
Values as a settings document holds them, before anything is checked.
-/

namespace RobotWorkshop

/-- The kinds of values, as messages tell them apart. -/
inductive ValueKind where
  | null
  | boolean
  | integer
  | float
  | text
  | list
  | mapping
  | set
  | bytes
  | date
  | moment
deriving DecidableEq, Repr

inductive Value where
  | null
  | boolean (b : Bool)
  | integer (n : Int)
  | float (x : Float)
  | text (s : String)
  | list (items : List Value)
  /-- Entries in the order of the document. -/
  | mapping (entries : List (Value × Value))
  /-- Values none of which is there twice, in the order in which they are gone through. -/
  | set (items : List Value)
  | bytes (data : List UInt8)
  | date (d : Date)
  | moment (m : Moment)
deriving Inhabited

namespace Value

def kind : Value → ValueKind
  | .null => .null
  | .boolean _ => .boolean
  | .integer _ => .integer
  | .float _ => .float
  | .text _ => .text
  | .list _ => .list
  | .mapping _ => .mapping
  | .set _ => .set
  | .bytes _ => .bytes
  | .date _ => .date
  | .moment _ => .moment

/-- A mapping from names. -/
def record (entries : List (String × Value)) : Value :=
  .mapping (entries.map fun (name, value) => (.text name, value))

/-- Values that stand for nothing at all. -/
def isVoid : Value → Bool
  | .null => true
  | .boolean b => !b
  | .integer n => n = 0
  | .float x => x == 0.0
  | .text s => s.isEmpty
  | .list items | .set items => items.isEmpty
  | .mapping entries => entries.isEmpty
  | .bytes data => data.isEmpty
  | .date _ | .moment _ => false

/-- The integer that a number is equal to. -/
def whole? : Value → Option Int
  | .boolean b => some (if b then 1 else 0)
  | .integer n => some n
  | .float x =>
    if x.isFinite && (Binary.ofFloat x).isInteger then some ((Binary.ofFloat x).times 1) else none
  | _ => none

/-- Whether two keys of a mapping are the same.  Numbers are compared by value, also across their
types. -/
def sameKey : Value → Value → Bool
  | .null, .null => true
  | .text s, .text t => s == t
  | .bytes s, .bytes t => s == t
  | .date d, .date e => d = e
  | .moment m, .moment n => m.same n
  | key, second =>
    match key.whole?, second.whole? with
    | some m, some n => m = n
    | none, none => match key, second with
      | .float x, .float y => x == y
      | _, _ => false
    | _, _ => false

end Value

/-- The entry of a name. -/
def valueOf? (entries : List (Value × Value)) (name : String) : Option Value :=
  (entries.find? fun entry => entry.1.sameKey (.text name)).map (·.2)

end RobotWorkshop
