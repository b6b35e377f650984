import RobotWorkshop.Files.Tree
import RobotWorkshop.Script.Playthrough
import RobotWorkshop.Text.Console
import RobotWorkshop.Text.Grid
import RobotWorkshop.Yaml.Writing

/-!
What a scripted session leaves behind: lines on the console, and a folder with the metrics of its
runs and with its settings.

The folder is made before anything else.  The files are written at the end, so a session that fails
leaves none; what it has told of its runs stays on the console.  A file with an integer that is too
long to be written is left as far as it goes.  The last line names the folder, and is read as
marked-up text.
-/

namespace RobotWorkshop

/-- Why a scripted session fails. -/
inductive ScriptFault where
  | file (cause : FileFault)
  | game (cause : Fault)
  | markup (cause : MarkupFault)
deriving DecidableEq, Repr

def ScriptFault.message : ScriptFault → String
  | .file cause => cause.message
  | .game cause => cause.message
  | .markup cause => cause.message

structure ScriptReport where
  /-- The folder with the results. -/
  result : Except ScriptFault Path
  console : List String := []
  /-- The files after the session. -/
  tree : Tree
  journal : List Entry := []

namespace ScriptReport

/-- The table of the runs. -/
def runsGrid (records : List RunRecord) : Grid :=
  let shown := 6
  { title := "Runs"
    header := (RunRecord.columns.take shown).map (·.1)
    rows := records.map fun r => r.cells.take shown
    ruled := true }

/-- The upgrades that the shop offers at the end. -/
def offersLine (offers : List Offer) : String :=
  let texts := offers.map fun o =>
    s!"{o.index}:{o.node.kind.label}" ++ if o.affordable then "" else " (locked)"
  "Upgrades on offer: " ++ if texts.isEmpty then "none" else ", ".intercalate texts

/-- The lines at the end of a session, up to the last one. -/
def summary (outputs : OutputSettings) (p : Playthrough) : List String :=
  if outputs.summarize then
    (runsGrid p.records).lines ++ Console.lines (offersLine p.session.offers).toList
  else []

/-- A file to be written. -/
structure Draft where
  path : Path
  text : String
  /-- Whether the text is all that the file is to hold.  Otherwise an integer cannot be written, and
  the text is what comes before it. -/
  complete : Bool

/-- The files with the results.  Settings are put into words before any of them is written. -/
def results (settings : Settings) (p : Playthrough) : List Draft :=
  let folder := settings.outputs.runDir
  let document := settings.toValue
  let complete := Yaml.isWritable document
  [{ path := folder.child "metrics.csv"
     text := RunRecord.metrics p.records
     complete := p.records.all (·.row.isWritable) },
    { path := folder.child "config.yaml"
      text := if complete then Yaml.write document else ""
      complete }]

/-- Writes files one after the other, until one of them cannot be written. -/
def writeAll (tree : Tree) : List Draft → Tree × Except ScriptFault Unit
  | [] => (tree, .ok ())
  | draft :: rest =>
    match tree.write draft.path draft.text with
    | .error cause => (tree, .error (.file cause))
    | .ok tree =>
      if draft.complete then writeAll tree rest else (tree, .error (.game .numberTooLong))

/-- What is left behind when the script has been played to its end. -/
def finished (tree : Tree) (settings : Settings) (p : Playthrough) (report : ScriptReport) :
    ScriptReport :=
  match writeAll tree (results settings p) with
  | (tree, .error cause) => { report with result := .error cause, tree }
  | (tree, .ok ()) =>
    let folder := settings.outputs.runDir
    let told := report.console ++ summary settings.outputs p
    let journal := report.journal ++ p.leave.journal
    match Console.markedUp ("Session complete -> " ++ folder.text) with
    | .ok last => { result := .ok folder, console := told ++ last, tree, journal }
    | .error cause => { result := .error (.markup cause), console := told, tree, journal }

end ScriptReport

/-- Plays a script and reports on it. -/
def runScript (frames : Nat) (tree : Tree) (settings : Settings) : ScriptReport :=
  match tree.makeFolder settings.outputs.runDir with
  | .error cause => { result := .error (.file cause), tree }
  | .ok tree =>
    let played := playScript frames settings
    let console := (played.state.elim [] (·.records)).map (·.report.text)
    let report (result : Except ScriptFault Path) : ScriptReport :=
      { result, console, tree, journal := played.journal }
    match played.result with
    | .ok p => ScriptReport.finished tree settings p (report (.ok settings.outputs.runDir))
    | .error cause => report (.error (.game cause))

end RobotWorkshop
