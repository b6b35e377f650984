import RobotWorkshop.Robot.Cpu
import RobotWorkshop.Robot.Program
import RobotWorkshop.Robot.Unlocks
import RobotWorkshop.Shop.UpgradeGraph

/-!
What a player owns from run to run, and how a bought upgrade improves it.
-/

namespace RobotWorkshop

structure Holdings where
  wallet : Wallet
  unlocks : Unlocks
  cpu : Cpu
  program : Program
  upgrades : UpgradeGraph
  /-- Seconds until the bomb goes off, before the multiplier. -/
  bombDuration : Float

/-- The effect of an upgrade. -/
structure Applied where
  holdings : Holdings
  /-- The instruction that became available through it. -/
  unlocked : Option Instruction
  journal : List Entry

namespace Holdings

/-- Applies a bought upgrade. -/
def apply (h : Holdings) : UpgradeKind → Applied
  | .speedBoost =>
    let tickInterval := h.cpu.tickInterval / 2.0
    { holdings := { h with cpu := { h.cpu with tickInterval } }
      unlocked := none
      journal := [.speedApplied tickInterval] }
  | .multiplierBoost =>
    let multiplier := h.cpu.multiplier * 2.0
    { holdings := { h with cpu := { h.cpu with multiplier } }
      unlocked := none
      journal := [.multiplierApplied multiplier] }
  | .capacityBoost =>
    let capacity := h.program.capacity * 2
    { holdings := { h with program := { h.program with capacity } }
      unlocked := none
      journal := [.capacityApplied capacity] }
  | .unlockConditional =>
    if .ifGapTurnLeft ∈ h.unlocks then { holdings := h, unlocked := none, journal := [] }
    else
      { holdings := { h with unlocks := h.unlocks.unlock .ifGapTurnLeft }
        unlocked := some .ifGapTurnLeft
        journal := [.conditionalApplied] }

end Holdings

end RobotWorkshop
