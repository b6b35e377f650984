import RobotWorkshop.Robot.Instruction
import RobotWorkshop.Shop.Upgrade

/-!
Why a command is refused.  A refusal is ordinary: it is noted where it arises, and nothing
changes.  It has its text from the start, so a refusal that cannot be put into words never comes to
be; what is raised in its place is a fault (`Fault.ofRefusal`).
-/

namespace RobotWorkshop

/-- The causes of a refusal. -/
inductive Refusal where
  | deposit (amount : Int)
  | insufficient (balance cost : Int)
  | programFull (capacity : Int)
  | noInstructionAt (index : Int)
  | locked (instruction : Instruction)
  | alreadyBought (node : UpgradeNode)
  | prerequisitesMissing (node : UpgradeNode)
  | alreadyRunning
  | runInactive
  | nothingToReset
  | resetInactive
  | editWhileRunning
  | noGame
deriving DecidableEq, Repr

def Refusal.wording : Refusal → Wording
  | .deposit amount => ["cannot deposit ", amount, " gears"]
  | .insufficient balance cost => ["insufficient gears: ", balance, " < ", cost]
  | .programFull capacity => ["program is full (", capacity, " instructions)"]
  | .noInstructionAt index => ["no instruction at index ", index]
  | .locked instruction => [instruction.name, " is not unlocked"]
  | .alreadyBought node => "already bought: " :: node.wording
  | .prerequisitesMissing node => "prerequisites missing: " :: node.wording
  | .alreadyRunning => ["a run is already in progress"]
  | .runInactive => ["run control is inactive"]
  | .nothingToReset => ["no run to reset"]
  | .resetInactive => ["reset control is inactive"]
  | .editWhileRunning => ["cannot edit the program while running"]
  | .noGame => ["no game in progress"]

def Refusal.message (cause : Refusal) : String := cause.wording.text

end RobotWorkshop
