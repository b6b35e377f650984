import RobotWorkshop.CommandLine.Request
import RobotWorkshop.CommandLine.Standard
import RobotWorkshop.Script.Report
import RobotWorkshop.Settings.Load

/-!
What a command line is answered: lines on the console, changed files, and an exit code.

- Code 0: the command was carried out.
- Code 1: settings or an unlock tree are not accepted, which the lines tell, or something else went
  wrong, which is a cause of its own (`Failure`).
- Code 2: the command line asks for nothing.
-/

namespace RobotWorkshop.CommandLine

/-- What can go wrong without being told in the lines of a reply. -/
inductive Failure where
  | logLevel (name : String)
  | file (cause : FileFault)
  | settings (cause : SettingsFault)
  | game (cause : Fault)
  | markup (cause : MarkupFault)
deriving DecidableEq, Repr

def Failure.message : Failure → String
  | .logLevel name => "Unknown level: " ++ quoted name
  | .file cause => cause.message
  | .settings cause => cause.message
  | .game cause => cause.message
  | .markup cause => cause.message

/-- How a command ends. -/
inductive Ending where
  | done
  | notAccepted
  | failed (cause : Failure)
  | misused (cause : UsageFault)

def Ending.code : Ending → Nat
  | .done => 0
  | .notAccepted | .failed _ => 1
  | .misused _ => 2

structure Reply where
  ending : Ending
  lines : List String := []
  /-- The files after the command. -/
  tree : Tree
  journal : List Entry := []

/-! ## Settings -/

/-- The names that a level of logging has. -/
def logLevels : List String :=
  ["CRITICAL", "FATAL", "ERROR", "WARN", "WARNING", "INFO", "DEBUG", "NOTSET"]

/-- Checks a level of logging, whose letters may be of either case. -/
def checkLogLevel (name : String) : Except Failure Unit :=
  let name := upperCase name
  if name ∈ logLevels then .ok () else .error (.logLevel name)

/-- The settings of a file, or the standard ones. -/
def loadSettings (tree : Tree) : Option Path → Except Failure Settings
  | none => .ok standardSettings
  | some path => do
    let text ← (tree.read path).mapError .file
    (Settings.ofText? text).mapError .settings

/-- What the options of a run put in place of settings. -/
def overridden (settings : Settings) (runDir : Option Path) (frameDt : Option Float)
    (summarize : Bool) : Settings :=
  let runDir := runDir.getD settings.outputs.runDir
  let script := { settings.script with frameDt := frameDt.getD settings.script.frameDt }
  { settings with script, outputs := { runDir, summarize } }

/-- Issues with settings: their number, and each with the way to it. -/
def issueLines (issues : List Issue) : List String :=
  let errors := if issues.length = 1 then "error" else "errors"
  let place (issue : Issue) := ".".intercalate (issue.place.map Key.text)
  s!"invalid configuration: {issues.length} validation {errors} for ConfigSchema" ::
    issues.flatMap fun issue => [place issue, "  " ++ issue.problem.message]

/-- The reply if something goes wrong before anything is done. -/
def refusal (tree : Tree) : Failure → Reply
  | .settings (.invalid issues) => { ending := .notAccepted, lines := issueLines issues, tree }
  | cause => { ending := .failed cause, tree }

/-! ## Commands -/

/-- Plays the script of some settings. -/
def run (frames : Nat) (tree : Tree) (settings : Settings) : Reply :=
  let report := runScript frames tree settings
  let reply (ending : Ending) (more : List String) : Reply :=
    { ending, lines := report.console ++ more, tree := report.tree, journal := report.journal }
  match report.result with
  | .ok folder =>
    match Console.markedUp ("Runs written to " ++ folder.text) with
    | .ok last => reply .done last
    | .error cause => reply (.failed (.markup cause)) []
  | .error (.game (.malformed cause)) =>
    reply .notAccepted (Console.lines ("invalid configuration: " ++ cause.message).toList)
  | .error (.game cause) => reply (.failed (.game cause)) []
  | .error (.file cause) => reply (.failed (.file cause)) []
  | .error (.markup cause) => reply (.failed (.markup cause)) []

/-- The upgrades of a tree, what each of them unlocks, and whether a balance can pay for it. -/
def upgradesGrid (graph : UpgradeGraph) (balance : Int) : Grid :=
  let state (index : Nat) (node : UpgradeNode) :=
    if !graph.isVisible index then "hidden"
    else if node.cost ≤ balance then "affordable"
    else "visible"
  { title := "Upgrade graph"
    header := ["index", "upgrade", "level", "cost", "unlocks", "state"]
    rows := graph.nodes.zipIdx.map fun (node, index) =>
      [toString index, node.kind.label, toString node.level, toString node.cost,
        ", ".intercalate ((graph.successors index).map toString), state index node] }

/-- The lines of the table of upgrades. -/
def upgradesLines (balance : Int) (graph : UpgradeGraph) : Except Fault (List String) :=
  if graph.nodes.all (·.wording.isWritable) then .ok (upgradesGrid graph balance).lines
  else .error .numberTooLong

/-- Shows something of the unlock tree of some settings. -/
def withUpgrades (tree : Tree) (settings : Settings)
    (lines : UpgradeGraph → Except Fault (List String)) : Reply :=
  match (UpgradeGraph.ofSettings? settings.upgrades).bind lines with
  | .ok lines => { ending := .done, lines, tree }
  | .error (.malformed cause) =>
    let told := "invalid upgrade graph: " ++ cause.message
    { ending := .notAccepted, lines := Console.lines told.toList, tree }
  | .error cause => refusal tree (.game cause)

/-- What is said of an unlock tree that is accepted. -/
def acceptance (graph : UpgradeGraph) : String :=
  s!"ok: {graph.size} upgrades, roots {listing (graph.roots.map toString)}"

/-- Does what a command line asks for.  A run of the program may take that many frames. -/
def perform (frames : Nat) (tree : Tree) (arguments : List String) : Reply :=
  let withSettings (path : Option Path) (reply : Settings → Reply) : Reply :=
    match loadSettings tree path with
    | .ok settings => reply settings
    | .error cause => refusal tree cause
  match Request.ofArguments? arguments with
  | .error cause => { ending := .misused cause, tree }
  | .ok (.run path runDir frameDt summarize logLevel) =>
    match checkLogLevel logLevel with
    | .error cause => refusal tree cause
    | .ok () => withSettings path fun settings =>
      run frames tree (overridden settings runDir frameDt summarize)
  | .ok (.upgrades path balance) => withSettings path fun settings =>
    withUpgrades tree settings (upgradesLines balance)
  | .ok (.validate path) => withSettings path fun settings =>
    withUpgrades tree settings fun graph => .ok (Console.lines (acceptance graph).toList)

end RobotWorkshop.CommandLine
