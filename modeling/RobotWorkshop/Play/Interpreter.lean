import RobotWorkshop.Clock.Timer
import RobotWorkshop.Play.Attempt
import RobotWorkshop.Robot.Cpu
import RobotWorkshop.Robot.Pose
import RobotWorkshop.Robot.Program

/-!
The interpreter of a program: a program counter and the clocks of a run.  Each tick executes one
instruction.
-/

namespace RobotWorkshop

/-- The clocks of a run: a repeating one for the ticks and a one-shot one for the bomb. -/
inductive Clocks where
  | absent
  /-- Only the tick clock could be made. -/
  | ticksOnly (ticks : Timer)
  | armed (ticks bomb : Timer)

namespace Clocks

def ticks? : Clocks → Option Timer
  | .absent => none
  | .ticksOnly ticks | .armed ticks _ => some ticks

def bomb? : Clocks → Option Timer
  | .armed _ bomb => some bomb
  | _ => none

/-- A new tick clock; a bomb that is there stays. -/
def withTicks (clocks : Clocks) (ticks : Timer) : Clocks :=
  match clocks.bomb? with
  | none => .ticksOnly ticks
  | some bomb => .armed ticks bomb

end Clocks

structure Interpreter where
  pc : Nat := 0
  clocks : Clocks := .absent

/-- What a tick of the interpreter brings about. -/
structure Ticked where
  interpreter : Interpreter
  pose : Pose
  /-- The executed instruction; none at the end of the program. -/
  instruction : Option Instruction
  journal : List Entry

namespace Interpreter

/-- Sets the program counter to the start and makes new clocks, first the one for the ticks.  When
one cannot be made, what was set up before it stays. -/
def start (m : Interpreter) (cpu : Cpu) (bombDuration : Float) : Attempt Interpreter Unit :=
  let m := { m with pc := 0 }
  match Timer.ofSeconds? cpu.tickPeriod true with
  | .error f => .failed m f
  | .ok ticks =>
    match Timer.ofSeconds? (cpu.scaled bombDuration) false with
    | .error f => .failed { m with clocks := m.clocks.withTicks ticks } f
    | .ok bomb =>
      .done { m with clocks := .armed ticks bomb } ()
        [.armed (Nanos.toSeconds ticks.duration) (Nanos.toSeconds bomb.duration)]

/-- Executes the instruction under the program counter. -/
def tick? (m : Interpreter) (program : Program) (pose : Pose) : Except Fault Ticked :=
  if program.length < m.pc then .error .counterOutOfRange
  else match program.sequence[m.pc]? with
    | none => .ok { interpreter := m, pose, instruction := none, journal := [.endOfProgram] }
    | some i =>
      .ok { interpreter := { m with pc := m.pc + 1 }
            pose := pose.execute i
            instruction := some i
            journal := [.executing m.pc i] }

/-- The interpreter between runs. -/
def idle : Interpreter := {}

end Interpreter

end RobotWorkshop
