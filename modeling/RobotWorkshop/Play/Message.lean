import RobotWorkshop.Robot.Instruction
import RobotWorkshop.Shop.Upgrade

/-!
What goes into a session and what comes out of it: commands and events, and the phases, screens
and outcomes that they speak of.
-/

namespace RobotWorkshop

/-- How a run ended. -/
inductive Outcome where
  | success
  | failure
deriving DecidableEq, Repr

def Outcome.name : Outcome → String
  | .success => "success"
  | .failure => "failure"

/-- A session is either at the shop or in a run. -/
inductive Phase where
  | buying
  | running
deriving DecidableEq, Repr

def Phase.name : Phase → String
  | .buying => "buying"
  | .running => "running"

inductive Screen where
  | loading
  | menu
  | playing
  | paused
deriving DecidableEq, Repr

def Screen.name : Screen → String
  | .loading => "loading"
  | .menu => "menu"
  | .playing => "playing"
  | .paused => "paused"

/-! ## In -/

/-- What a player asks for. -/
inductive Command where
  | startRun
  | resetToBuying
  | purchase (index : Int)
  | addInstruction (instruction : Instruction)
  | removeInstruction (index : Int)
  | pickUp (amount : Int)
deriving DecidableEq, Repr

/-- How messages name a command. -/
def Command.name : Command → String
  | .startRun => "StartRun"
  | .resetToBuying => "ResetToBuying"
  | .purchase _ => "Purchase"
  | .addInstruction _ => "AddInstruction"
  | .removeInstruction _ => "RemoveInstruction"
  | .pickUp _ => "PickupCurrency"

/-- What may stand in the queue: a command, or a value that is none, as it is shown. -/
inductive Submission where
  | command (c : Command)
  | unknown (shown : String)
deriving DecidableEq, Repr

def Submission.isStart : Submission → Bool
  | .command .startRun => true
  | _ => false

/-! ## Out -/

/-- What a session tells about itself. -/
inductive Event where
  | tickExecuted (instruction : Instruction) (pc : Nat)
  | runCompleted (outcome : Outcome) (ticks : Nat)
  | upgradePurchased (kind : UpgradeKind) (index : Int)
  | walletChanged (balance : Int)
  | unlocksChanged (category : Category) (instruction : Instruction)
  | phaseChanged (phase : Phase)
deriving DecidableEq, Repr

end RobotWorkshop
