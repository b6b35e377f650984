import RobotWorkshop.Settings.Basic

/-!
The settings that stand in for a settings file: three gears near the start, and a script that runs a
program of one instruction, buys room for a second one, and runs on.
-/

namespace RobotWorkshop.CommandLine

/-- A step that is no addition to the program. -/
def plainStep (action : Action) (index : Option Int) (h : action ≠ .add) : Step :=
  { action, index, add_has_instruction := fun added => absurd added h }

def addMove : Step :=
  { action := .add, instruction := some .moveForward, add_has_instruction := fun _ => rfl }

def standardSettings : Settings :=
  let run := plainStep .run none (by decide)
  let purchase (index : Int) := plainStep .purchase (some index) (by decide)
  { level := { gears := [
      { position := [1, 0], value := 10 },
      { position := [2, 0], value := 10 },
      { position := [2, 1], value := 25 }] }
    script := { steps := [addMove, run, purchase 0, addMove, run, purchase 4, run] } }

end RobotWorkshop.CommandLine
