/-!
Messages as lists of parts: words as they stand, and integers.  An integer of more than
`mostWrittenDigits` digits is not written out, so a message with such an integer in it has no text.
-/

namespace RobotWorkshop

/-- The most digits of an integer that is written out; its sign does not count. -/
def mostWrittenDigits : Nat := 4300

/-- Whether an integer is written out. -/
@[irreducible]
def isWritable (n : Int) : Bool := n.natAbs < Nat.pow 10 mostWrittenDigits

/-- A part of a message. -/
inductive Part where
  | words (text : String)
  | number (n : Int)
deriving DecidableEq, Repr

namespace Part

instance : Coe String Part := ⟨.words⟩

instance : Coe Int Part := ⟨.number⟩

def text : Part → String
  | .words text => text
  | .number n => toString n

def isWritable : Part → Bool
  | .words _ => true
  | .number n => RobotWorkshop.isWritable n

@[simp] theorem isWritable_words (text : String) : (words text).isWritable = true := rfl

@[simp] theorem isWritable_number (n : Int) :
    (number n).isWritable = RobotWorkshop.isWritable n := rfl

end Part

abbrev Wording := List Part

namespace Wording

/-- The text of a message that can be written. -/
def text (w : Wording) : String := String.join (w.map Part.text)

/-- Whether a message can be written: all its integers can. -/
def isWritable (w : Wording) : Bool := w.all Part.isWritable

@[simp] theorem isWritable_nil : isWritable [] = true := rfl

@[simp] theorem isWritable_cons (part : Part) (w : Wording) :
    isWritable (part :: w) = (part.isWritable && isWritable w) := rfl

end Wording

end RobotWorkshop
