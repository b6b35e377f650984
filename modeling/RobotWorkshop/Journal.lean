import RobotWorkshop.Number.Layout
import RobotWorkshop.Play.Message
import RobotWorkshop.Refusal
import RobotWorkshop.Robot.Pose
import RobotWorkshop.Text.Listing

/-!
The journal: what operations note about their work.  An entry has a level and a text; it is not
part of any state.
-/

namespace RobotWorkshop

/-- How serious an entry is. -/
inductive Severity where
  | debug
  | info
  | warning
deriving DecidableEq, Repr

def Severity.name : Severity → String
  | .debug => "DEBUG"
  | .info => "INFO"
  | .warning => "WARNING"

inductive Entry where
  | unknownUpgrade (index : Int)
  | upgradeRejected (index : Int) (cause : Refusal)
  | upgradeBought (node : UpgradeNode) (revealed : List Nat)
  | collected (value : Int) (position : Point)
  | speedApplied (tickInterval : Float)
  | multiplierApplied (multiplier : Float)
  | capacityApplied (capacity : Int)
  | conditionalApplied
  | armed (tick bomb : Float)
  | endOfProgram
  | executing (pc : Nat) (instruction : Instruction)
  | phaseChanged (source target : Phase)
  | commandRejected (command : Command) (cause : Refusal)
  | purchaseWhileRunning
  | runStarted (instructions : Nat)
  | runReset
  | bombExploded (ticks : Nat)
  | screenChanged (source target : Screen)
  | screenRefused (source target : Screen)
  | runTimedOut (run : Nat) (waited : Float)

namespace Entry

def severity : Entry → Severity
  | .unknownUpgrade _ | .upgradeRejected _ _ | .commandRejected _ _ | .purchaseWhileRunning
  | .screenRefused _ _ | .runTimedOut _ _ => .warning
  | .collected _ _ | .armed _ _ | .executing _ _ => .debug
  | _ => .info

def text : Entry → String
  | .unknownUpgrade index => s!"Unknown upgrade index {index}"
  | .upgradeRejected index cause => s!"Upgrade {index} rejected: {cause.message}"
  | .upgradeBought node revealed =>
    s!"Bought upgrade: {node.text}; revealed {listing (revealed.map toString)}"
  | .collected value position => s!"collected {value} gears at {pairText position.x position.y}"
  | .speedApplied tickInterval =>
    s!"Applied CPU Speed upgrade: new tick = {fixedPlaces 4 tickInterval}s"
  | .multiplierApplied multiplier =>
    s!"Applied CPU Multiplier upgrade: new multiplier = {Layout.report.render multiplier}"
  | .capacityApplied capacity =>
    s!"Applied Max Instructions upgrade: new max instructions = {capacity}"
  | .conditionalApplied => "Applied Unlock If upgrade: IfGapTurnLeft now available"
  | .armed tick bomb => s!"run armed: tick={fixedPlaces 4 tick}s bomb={fixedPlaces 4 bomb}s"
  | .endOfProgram => "End of program reached."
  | .executing pc instruction => s!"Executing instruction {pc}: {instruction.name}"
  | .phaseChanged source target => s!"phase {source.name} -> {target.name}"
  | .commandRejected command cause => s!"{command.name} rejected: {cause.message}"
  | .purchaseWhileRunning => "Purchase rejected: cannot buy upgrades while running"
  | .runStarted instructions => s!"Starting simulation with {instructions} instructions"
  | .runReset => "Resetting simulation"
  | .bombExploded ticks => s!"Bomb exploded after {ticks} instructions"
  | .screenChanged source target => s!"screen {source.name} -> {target.name}"
  | .screenRefused source target => s!"Cannot go from {source.name} to {target.name}"
  | .runTimedOut run waited =>
    s!"run {run} still going after {fixedPlaces 1 waited}s, resetting"

end Entry

end RobotWorkshop
