import RobotWorkshop.Number.Layout
import RobotWorkshop.Play.Session

/-!
The record of a run, and the table of metrics in which each run has a line.  The time a run has
taken is kept in whole nanoseconds; it is told in seconds, rounded to six places.
-/

namespace RobotWorkshop

/-- How a scripted run came to its end. -/
inductive RunEnd where
  | completed (outcome : Outcome)
  /-- The run was given up because its time was over. -/
  | timedOut
deriving DecidableEq, Repr

def RunEnd.name : RunEnd → String
  | .completed outcome => outcome.name
  | .timedOut => "timeout"

structure RunRecord where
  /-- The number of the run, from zero on. -/
  run : Nat
  ending : RunEnd
  ticks : Nat
  /-- Nanoseconds. -/
  elapsed : Int
  balance : Int
  capacity : Int
  programLength : Nat
  tickInterval : Float
  multiplier : Float
  position : Point

namespace RunRecord

/-- The record of a session's run. -/
def ofSession (run : Nat) (s : Session) (ending : RunEnd) : RunRecord :=
  { run
    ending
    ticks := s.ticks
    elapsed := s.runElapsed
    balance := s.holdings.wallet.balance
    capacity := s.holdings.program.capacity
    programLength := s.holdings.program.length
    tickInterval := s.holdings.cpu.tickInterval
    multiplier := s.holdings.cpu.multiplier
    position := s.pose.position }

/-- The seconds that the run has taken. -/
def seconds (r : RunRecord) : Float := roundToPlaces 6 (Nanos.toSeconds r.elapsed)

/-- The columns of a table of records: a name, and what a record's cell holds. -/
def columns : List (String × (RunRecord → Part)) := [
  ("run", fun r => .number r.run),
  ("outcome", fun r => r.ending.name),
  ("ticks", fun r => .number r.ticks),
  ("elapsed", fun r => Layout.report.render r.seconds),
  ("balance", fun r => r.balance),
  ("capacity", fun r => r.capacity),
  ("program_length", fun r => .number r.programLength),
  ("tick_interval", fun r => Layout.report.render r.tickInterval),
  ("multiplier", fun r => Layout.report.render r.multiplier),
  ("actor_x", fun r => r.position.x),
  ("actor_y", fun r => r.position.y)]

/-- What the cells of a record hold. -/
def row (r : RunRecord) : Wording := columns.map fun column => column.2 r

/-- The cells of a record. -/
def cells (r : RunRecord) : List String := r.row.map Part.text

/-- The metrics of all runs, separated by commas: a line with the names of the columns, and one for
each run, up to the first that cannot be written. -/
def metrics (records : List RunRecord) : String :=
  let line (cells : List String) := ",".intercalate cells ++ "\n"
  String.join (line (columns.map (·.1)) ::
    (records.takeWhile (·.row.isWritable)).map fun r => line r.cells)

/-- What the console tells of a run. -/
def report (r : RunRecord) : Wording :=
  ["run ", .number r.run, " | ", r.ending.name, " | ticks=", .number r.ticks, " | elapsed=",
    fixedPlaces 2 r.seconds, "s | gears=", r.balance]

end RunRecord

end RobotWorkshop
