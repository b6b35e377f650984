import RobotWorkshop.Number.Layout
import RobotWorkshop.Robot.Pose
import RobotWorkshop.Settings.Path
import RobotWorkshop.Settings.Value
import RobotWorkshop.Shop.Upgrade

/-!
The settings of a game and of a scripted session, with a default for everything.  What has been
checked is part of the types: settings that exist are settings that were accepted.
-/

namespace RobotWorkshop

structure CpuSettings where
  tickInterval : Float := 1.0
  multiplier : Float := 1.0
  positive : ¬(tickInterval ≤ 0.0 ∨ multiplier ≤ 0.0) := by decide +kernel

def CpuSettings.standard : CpuSettings := {}

structure ProgramSettings where
  initialCapacity : Int := 1
  positive : 1 ≤ initialCapacity := by decide

def ProgramSettings.standard : ProgramSettings := {}

structure NodeSettings where
  kind : UpgradeKind
  level : Int := 1
  cost : Int := 0
  nonnegative : 0 ≤ cost := by decide

structure UpgradeSettings where
  nodes : List NodeSettings
  edges : List (Int × Int)
  roots : List Int

structure GearSettings where
  position : List Int
  value : Int := 1
  positive : 0 < value := by decide

structure LevelSettings where
  /-- Two coordinates are looked at. -/
  spawn : List Int := [0, 0]
  facing : Point := ⟨1, 0⟩
  gears : List GearSettings := []

/-- What a step of a script does. -/
inductive Action where
  | add
  | remove
  | purchase
  | pickUp
  | run
  | wait
deriving DecidableEq, Repr

namespace Action

def all : List Action := [.add, .remove, .purchase, .pickUp, .run, .wait]

def name : Action → String
  | .add => "add"
  | .remove => "remove"
  | .purchase => "purchase"
  | .pickUp => "pickup"
  | .run => "run"
  | .wait => "wait"

end Action

structure Step where
  action : Action
  instruction : Option Instruction := none
  index : Option Int := none
  amount : Option Int := none
  seconds : Option Float := none
  /-- A step that adds to the program says what. -/
  add_has_instruction : action = .add → instruction.isSome

structure ScriptSettings where
  frameDt : Float := 1.0 / 60.0
  maxRunSeconds : Float := 120.0
  steps : List Step := []

structure OutputSettings where
  runDir : Path := .ofText "runs"
  summarize : Bool := true

namespace UpgradeSettings

def seedNode (kind : UpgradeKind) (level cost : Nat) : NodeSettings :=
  { kind, level, cost, nonnegative := Int.natCast_nonneg cost }

/-- The upgrades of every game that says nothing else. -/
def seedNodes : List NodeSettings :=
  [1, 2, 3, 4].map (fun i => seedNode .capacityBoost i (10 * Nat.pow 2 i - 10)) ++
  [1, 2, 3, 4, 5].map (fun i => seedNode .speedBoost i (10 * Nat.pow 3 i)) ++
  [seedNode .unlockConditional 1 100]

def seedEdges : List (Int × Int) :=
  [(0, 4), (4, 5), (4, 1), (5, 6), (5, 2), (5, 9), (6, 7), (6, 3), (7, 8)]

def seed : UpgradeSettings := { nodes := seedNodes, edges := seedEdges, roots := [0] }

end UpgradeSettings

structure Settings where
  cpu : CpuSettings := .standard
  /-- Seconds until the bomb goes off. -/
  bombDuration : Float := 30.0
  program : ProgramSettings := .standard
  /-- The instructions that are available from the start, by category. -/
  unlockSeed : List (Category × List Instruction) := [(.movement, [.moveForward])]
  upgrades : UpgradeSettings := .seed
  level : LevelSettings := {}
  script : ScriptSettings := {}
  outputs : OutputSettings := {}

/-- The settings of a game that asks for nothing. -/
def Settings.standard : Settings := {}

/-! ## Written out -/

namespace Settings

def cpuValue (s : CpuSettings) : Value :=
  .record [("tick_interval", .float s.tickInterval), ("multiplier", .float s.multiplier)]

def seedValue (seed : List (Category × List Instruction)) : Value :=
  .record (seed.map fun (category, instructions) =>
    (category.name, .list (instructions.map fun i => .text i.name)))

def nodeValue (n : NodeSettings) : Value :=
  .record [("kind", .text n.kind.name), ("level", .integer n.level), ("cost", .integer n.cost)]

def integersValue (ns : List Int) : Value := .list (ns.map .integer)

def upgradesValue (u : UpgradeSettings) : Value :=
  .record [
    ("nodes", .list (u.nodes.map nodeValue)),
    ("edges", .list (u.edges.map fun e => integersValue [e.1, e.2])),
    ("roots", integersValue u.roots)]

def gearValue (g : GearSettings) : Value :=
  .record [("position", integersValue g.position), ("value", .integer g.value)]

def levelValue (l : LevelSettings) : Value :=
  .record [
    ("spawn", integersValue l.spawn),
    ("facing", integersValue [l.facing.x, l.facing.y]),
    ("gears", .list (l.gears.map gearValue))]

def stepValue (s : Step) : Value :=
  .record [
    ("action", .text s.action.name),
    ("instruction", s.instruction.elim .null fun i => .text i.name),
    ("index", s.index.elim .null .integer),
    ("amount", s.amount.elim .null .integer),
    ("seconds", s.seconds.elim .null .float)]

def scriptValue (s : ScriptSettings) : Value :=
  .record [
    ("frame_dt", .float s.frameDt),
    ("max_run_seconds", .float s.maxRunSeconds),
    ("steps", .list (s.steps.map stepValue))]

def outputsValue (o : OutputSettings) : Value :=
  .record [("run_dir", .text o.runDir.text), ("summarize", .boolean o.summarize)]

/-- The settings as a document in which everything is spelled out. -/
def toValue (s : Settings) : Value :=
  .record [
    ("cpu", cpuValue s.cpu),
    ("bomb", .record [("duration", .float s.bombDuration)]),
    ("program", .record [("initial_capacity", .integer s.program.initialCapacity)]),
    ("unlocks", .record [("seed", seedValue s.unlockSeed)]),
    ("upgrades", upgradesValue s.upgrades),
    ("level", levelValue s.level),
    ("script", scriptValue s.script),
    ("outputs", outputsValue s.outputs)]

end Settings

end RobotWorkshop
