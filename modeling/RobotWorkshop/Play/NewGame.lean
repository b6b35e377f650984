import RobotWorkshop.Play.Session
import RobotWorkshop.Settings.Basic

/-!
A new game from settings.  Each part is made by its own constructor, which checks once more what
it needs; the first fault is reported.
-/

namespace RobotWorkshop

/-- The first two of a list of coordinates. -/
def Point.ofCoordinates? : List Int → Except Fault Point
  | x :: y :: _ => .ok ⟨x, y⟩
  | _ => .error .outOfRange

/-- The unlock tree of some settings. -/
def UpgradeGraph.ofSettings? (settings : UpgradeSettings) : Except Fault UpgradeGraph :=
  UpgradeGraph.new? (settings.nodes.map fun n => { kind := n.kind, level := n.level, cost := n.cost })
    settings.edges settings.roots

/-- The tree of every game that says nothing else. -/
def UpgradeGraph.seed? : Except Fault UpgradeGraph :=
  UpgradeGraph.ofSettings? .seed

/-- The level of some settings; of two gears on one cell the later counts. -/
def Level.ofSettings? (settings : LevelSettings) : Except Fault Level := do
  let gears ← settings.gears.mapM fun gear =>
    (Point.ofCoordinates? gear.position).map fun cell => (cell, gear.value)
  let spawn ← Point.ofCoordinates? settings.spawn
  return { spawn, facing := settings.facing, layout := Gears.ofList gears }

/-- What a player owns at the start: no gears, and an empty program. -/
def Holdings.ofSettings? (settings : Settings) : Except Fault Holdings := do
  let unlocks ← Unlocks.ofTable? (settings.unlockSeed.map fun (category, instructions) =>
    (category.name, instructions.map Instruction.name))
  let cpu ← Cpu.new? settings.cpu.tickInterval settings.cpu.multiplier
  let program ← Program.new? settings.program.initialCapacity []
  let upgrades ← UpgradeGraph.ofSettings? settings.upgrades
  return { wallet := {}, unlocks, cpu, program, upgrades, bombDuration := settings.bombDuration }

/-- A new session. -/
def Session.ofSettings? (settings : Settings) : Except Fault Session := do
  let holdings ← Holdings.ofSettings? settings
  let level ← Level.ofSettings? settings.level
  return Session.new holdings level

end RobotWorkshop
