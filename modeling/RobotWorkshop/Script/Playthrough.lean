import RobotWorkshop.Play.NewGame
import RobotWorkshop.Play.Screens
import RobotWorkshop.Script.Record

/-!
A script at work.  Its steps are carried out one after the other; a step that runs the program
lets frames pass until the run is over or the time for it is up, and keeps a record of it.

Nothing forces a run to come to an end: frames that take no time can go on for ever.  The frames of
a run are therefore limited, and a limit that is reached is a fault of its own
(`Fault.framesSpent`).
-/

namespace RobotWorkshop

namespace Session

/-- A command that is given and carried out in a frame without time. -/
def order (s : Session) (c : Command) : Attempt Session (List Event) :=
  (s.submit (.command c)).update 0.0

/-- Lets frames pass until the run is over or the time for it is up.  The answer is the time waited,
in seconds.  `past` is the journal so far, last entry first. -/
def passFrames (pace : ScriptSettings) :
    (frames : Nat) → (waited : Float) → (past : List Entry) → Session → Attempt Session Float
  | 0, _, past, s => .failed s .framesSpent past.reverse
  | frames + 1, waited, past, s =>
    if s.running && waited < pace.maxRunSeconds then
      let frame := s.update pace.frameDt
      let past := frame.journal.reverse ++ past
      match frame.result with
      | .error fault => .failed frame.state fault past.reverse
      | .ok _ => passFrames pace frames (waited + pace.frameDt) past frame.state
    else .done s waited past.reverse

/-- Runs the program.  A run that still goes on when its time is up is recorded and given up. -/
def playRun (pace : ScriptSettings) (frames run : Nat) (s : Session) : Attempt Session RunRecord :=
  (s.order .startRun).andThen fun s _ =>
    (s.passFrames pace frames 0.0 []).andThen fun s waited =>
      if s.running then
        let record := RunRecord.ofSession run s .timedOut
        ((s.order .resetToBuying).andThen fun s _ => .done s record).after [.runTimedOut run waited]
      else
        match s.lastOutcome with
        | some outcome => .done s (.ofSession run s (.completed outcome))
        | none => .failed s .noOutcome

end Session

/-- A session and the records of the runs so far. -/
structure Playthrough where
  session : Session
  records : List RunRecord := []

namespace Playthrough

/-- Carries out one step.  A purchase without an index takes the first upgrade, a removal the last
instruction.  A run is told of as soon as it is recorded, and a record that cannot be told stops the
script. -/
def perform (pace : ScriptSettings) (frames : Nat) (p : Playthrough) (step : Step) :
    Attempt Playthrough Unit :=
  let quietly (a : Attempt Session (List Event)) : Attempt Playthrough Unit :=
    (a.within fun session => { p with session }).andThen fun p _ => .done p ()
  match h : step.action with
  | .run =>
    ((p.session.playRun pace frames p.records.length).within
      fun session => { p with session }).andThen fun p record =>
        if record.report.isWritable then .done { p with records := p.records ++ [record] } ()
        else .failed p .numberTooLong
  | .add =>
    quietly (p.session.order (.addInstruction (step.instruction.get (step.add_has_instruction h))))
  | .remove =>
    quietly (p.session.order (.removeInstruction
      (step.index.getD (p.session.holdings.program.length - 1))))
  | .purchase => quietly (p.session.order (.purchase (step.index.getD 0)))
  | .pickUp => quietly (p.session.order (.pickUp (step.amount.getD 0)))
  | .wait => quietly (p.session.update (step.seconds.getD 0.0))

/-- Carries out steps until one of them fails. -/
def performAll (pace : ScriptSettings) (frames : Nat) :
    Playthrough → List Step → Attempt Playthrough Unit
  | p, [] => .done p ()
  | p, step :: steps => (p.perform pace frames step).andThen fun p () => p.performAll pace frames steps

/-- The screens while the script is at work. -/
def screens (p : Playthrough) : Screens := { screen := .playing, session := some p.session }

end Playthrough

/-- Goes to a new game. -/
def openGame (settings : Settings) : Attempt (Option Playthrough) Playthrough :=
  let shown := (Screens.finishLoading {}).andThen fun m _ =>
    (m.play (fun () => (Session.ofSettings? settings, ())) ()).within (·.1)
  (shown.within fun m => m.session.map ({ session := · })).andThen fun p _ =>
    match p with
    | none => .failed none (.refused .noGame)
    | some p => .done (some p) p

/-- Plays the script of some settings in a new game.  Each run may take that many frames. -/
def playScript (frames : Nat) (settings : Settings) : Attempt (Option Playthrough) Playthrough :=
  (openGame settings).andThen fun _ p =>
    ((p.performAll settings.script frames settings.script.steps).andThen fun p () =>
      .done p p).within some

/-- Leaves the game at the end of a script. -/
def Playthrough.leave (p : Playthrough) : Attempt Screens Bool := p.screens.quit

end RobotWorkshop
