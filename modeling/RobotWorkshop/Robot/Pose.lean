import RobotWorkshop.Robot.Instruction

/-!
Where the robot stands and which way it faces, and what an instruction does to it.
-/

namespace RobotWorkshop

/-- A cell of the grid, or a displacement on it. -/
structure Point where
  x : Int
  y : Int
deriving DecidableEq, Repr

structure Pose where
  position : Point := ⟨0, 0⟩
  facing : Point := ⟨1, 0⟩
deriving DecidableEq, Repr

namespace Pose

/-- One step in the direction it faces. -/
def moveForward (p : Pose) : Pose :=
  { p with position := ⟨p.position.x + p.facing.x, p.position.y + p.facing.y⟩ }

/-- A quarter turn counter-clockwise, `y` pointing up. -/
def turnLeft (p : Pose) : Pose := { p with facing := ⟨-p.facing.y, p.facing.x⟩ }

/-- The effect of one instruction. -/
def execute (p : Pose) : Instruction → Pose
  | .moveForward => p.moveForward
  | .ifGapTurnLeft => p.turnLeft

end Pose

end RobotWorkshop
