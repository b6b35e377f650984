/-!
The instructions that a robot understands, and the categories they are filed under.  Both sets
are closed: a name that is not listed stands for nothing.
-/

namespace RobotWorkshop

/-- What an instruction is about. -/
inductive Category where
  | movement
  | control
  | scanning
deriving DecidableEq, Repr

namespace Category

/-- Every category, in the order of listings. -/
def all : List Category := [.movement, .control, .scanning]

def name : Category → String
  | .movement => "movement"
  | .control => "control"
  | .scanning => "scanning"

def ofName? (name : String) : Option Category := all.find? (·.name == name)

end Category

/-- One step of a program. -/
inductive Instruction where
  | moveForward
  /-- Turns left whether or not there is a gap. -/
  | ifGapTurnLeft
deriving DecidableEq, Repr

namespace Instruction

/-- Every instruction, by category and then by name. -/
def all : List Instruction := [.moveForward, .ifGapTurnLeft]

def name : Instruction → String
  | .moveForward => "move_forward"
  | .ifGapTurnLeft => "if_gap_turn_left"

def category : Instruction → Category
  | .moveForward => .movement
  | .ifGapTurnLeft => .scanning

def ofName? (name : String) : Option Instruction := all.find? (·.name == name)

theorem mem_all (i : Instruction) : i ∈ all := by cases i <;> simp [all]

@[simp] theorem ofName?_name (i : Instruction) : ofName? i.name = some i := by
  cases i <;> decide

end Instruction

theorem Category.mem_all (c : Category) : c ∈ Category.all := by cases c <;> simp [Category.all]

@[simp] theorem Category.ofName?_name (c : Category) : Category.ofName? c.name = some c := by
  cases c <;> decide

end RobotWorkshop
