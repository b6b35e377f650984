import RobotWorkshop.Journal

/-!
A level: where the robot starts and which gears lie on the grid.  A gear is collected once; all
of them are back when the robot starts over.
-/

namespace RobotWorkshop

/-- Gears by cell; no cell occurs twice. -/
abbrev Gears := List (Point × Int)

namespace Gears

/-- Puts gears on a cell, in place of what lay there. -/
def put (gears : Gears) (cell : Point) (value : Int) : Gears :=
  gears.filter (·.1 ≠ cell) ++ [(cell, value)]

/-- Of two entries for a cell the later counts. -/
def ofList (entries : List (Point × Int)) : Gears :=
  entries.foldl (fun gears entry => gears.put entry.1 entry.2) []

/-- Takes what lies on a cell, nothing counting as zero. -/
def take (gears : Gears) (cell : Point) : Int × Gears :=
  ((gears.find? (·.1 = cell)).elim 0 (·.2), gears.filter (·.1 ≠ cell))

end Gears

structure Level where
  spawn : Point := ⟨0, 0⟩
  facing : Point := ⟨1, 0⟩
  layout : Gears := []
  /-- What has not been collected since the last start. -/
  gears : Gears := layout
deriving DecidableEq, Repr

namespace Level

/-- How the robot stands at the start. -/
def start (l : Level) : Pose := { position := l.spawn, facing := l.facing }

/-- Puts all gears back. -/
def restored (l : Level) : Level := { l with gears := l.layout }

/-- Collects what lies on a cell. -/
def collect (l : Level) (cell : Point) : Int × Level :=
  let (value, gears) := l.gears.take cell
  (value, { l with gears })

/-- What is noted of a collected value; nothing is noted of zero. -/
def collected (value : Int) (cell : Point) : List Entry :=
  if value = 0 then [] else [.collected value cell]

end Level

end RobotWorkshop
