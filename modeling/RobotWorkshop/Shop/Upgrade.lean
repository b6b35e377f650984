import RobotWorkshop.Text.Wording

/-!
Upgrades on sale: what each kind does for the robot, and one node of the unlock tree.
-/

namespace RobotWorkshop

/-- What an upgrade improves. -/
inductive UpgradeKind where
  | speedBoost
  | multiplierBoost
  | capacityBoost
  | unlockConditional
deriving DecidableEq, Repr

namespace UpgradeKind

/-- Every kind, in the order of listings. -/
def all : List UpgradeKind := [.speedBoost, .multiplierBoost, .capacityBoost, .unlockConditional]

def name : UpgradeKind → String
  | .speedBoost => "speed_boost"
  | .multiplierBoost => "multiplier_boost"
  | .capacityBoost => "capacity_boost"
  | .unlockConditional => "unlock_conditional"

/-- The text on the price tag. -/
def label : UpgradeKind → String
  | .speedBoost => "CPU Speed x2"
  | .multiplierBoost => "CPU Multiplier x2"
  | .capacityBoost => "Max Instructions x2"
  | .unlockConditional => "Unlock If"

def ofName? (name : String) : Option UpgradeKind := all.find? (·.name == name)

theorem mem_all (k : UpgradeKind) : k ∈ all := by cases k <;> simp [all]

@[simp] theorem ofName?_name (k : UpgradeKind) : ofName? k.name = some k := by cases k <;> decide

end UpgradeKind

/-- One upgrade of the tree. -/
structure UpgradeNode where
  kind : UpgradeKind
  level : Int
  cost : Int
  purchased : Bool := false
deriving DecidableEq, Repr

/-- How messages name an upgrade. -/
def UpgradeNode.wording (node : UpgradeNode) : Wording :=
  [node.kind.label, " (level ", node.level, ", ", node.cost, " gears)"]

def UpgradeNode.text (node : UpgradeNode) : String := node.wording.text

end RobotWorkshop
