import RobotWorkshop.Play.Holdings
import RobotWorkshop.Play.Interpreter
import RobotWorkshop.Play.PhaseMachine
import RobotWorkshop.Robot.Level

/-!
A session of the game: what the player owns, the level, the run in progress, a queue of commands
and an outbox of events.

`Session.update` handles one frame, always in the same order:

1. the bomb and the ticks of the run (`advance`),
2. the queued commands, first in first out (`runQueue`),
3. the outbox is handed over.

Within a frame a tick is executed only if it falls strictly before the bomb goes off.  Gears that
are collected in a frame are queued behind the commands of that frame and credited in it.
-/

namespace RobotWorkshop

structure Session where
  holdings : Holdings
  level : Level
  pose : Pose
  phases : PhaseMachine := {}
  interpreter : Interpreter := .idle
  lastOutcome : Option Outcome := none
  ticks : Nat := 0
  /-- Nanoseconds that the current or last run has taken. -/
  runElapsed : Int := 0
  /-- The offers as they were last worked out. -/
  offers : List Offer
  queue : List Submission := []
  outbox : List Event := []

namespace Session

/-- A session at its start. -/
def new (holdings : Holdings) (level : Level) : Session :=
  { holdings
    level
    pose := level.start
    offers := holdings.upgrades.offers holdings.wallet.balance }

def running (s : Session) : Bool := s.phases.running

/-- Seconds until the bomb goes off, while there is one. -/
def timeToBomb (s : Session) : Option Float :=
  s.interpreter.clocks.bomb?.map fun bomb => Nanos.toSeconds bomb.remaining

/-! ## Small steps -/

def submit (s : Session) (item : Submission) : Session := { s with queue := s.queue ++ [item] }

def announce (s : Session) (events : List Event) : Session :=
  { s with outbox := s.outbox ++ events }

/-- Hands the outbox over. -/
def drain (s : Session) : List Event × Session := (s.outbox, { s with outbox := [] })

/-- Announces the balance and works the offers out anew. -/
def walletChanged (s : Session) : Session :=
  let balance := s.holdings.wallet.balance
  { s.announce [.walletChanged balance] with offers := s.holdings.upgrades.offers balance }

/-- Ends the run: the clocks are put away and the shop opens. -/
def endRun (s : Session) (outcome : Outcome) : Attempt Session Unit :=
  match s.phases.finishRun? with
  | .error f => .failed { s with interpreter := .idle } f
  | .ok phases =>
    .done ({ s with interpreter := .idle, phases, lastOutcome := some outcome }.announce
        [.runCompleted outcome s.ticks, .phaseChanged .buying]) ()
      [s.phases.goingTo phases]

/-- Collects what lies under the robot and queues it for the wallet. -/
def collect (s : Session) : Attempt Session Unit :=
  let (value, level) := s.level.collect s.pose.position
  let s := { s with level }
  .done (if value = 0 then s else s.submit (.command (.pickUp value))) ()
    (Level.collected value s.pose.position)

/-- One tick of the run.  The answer tells whether the run goes on. -/
def tick (s : Session) : Attempt Session Bool :=
  match s.interpreter.tick? s.holdings.program s.pose with
  | .error f => .failed s f
  | .ok ticked =>
    match ticked.instruction with
    | none => ((s.endRun .success).andThen fun s () => .done s false).after ticked.journal
    | some i =>
      let s := { s with interpreter := ticked.interpreter, pose := ticked.pose, ticks := s.ticks + 1 }
      let s := s.announce [.tickExecuted i (ticked.interpreter.pc - 1)]
      (s.collect.andThen fun s () => .done s true).after ticked.journal

/-! ## The run in a frame -/

/-- Executes the ticks at the given offsets, up to the bomb.  The answer is the offset at which the
program was found to be at its end, if it was. -/
def runTicks (s : Session) (bombAt : Option Int) : List Int → Attempt Session (Option Int)
  | [] => .done s none
  | offset :: offsets =>
    if bombAt.any (· ≤ offset) then .done s none
    else s.tick.andThen fun s goesOn =>
      if goesOn then s.runTicks bombAt offsets else .done s (some offset)

/-- Adds to the time that the run has taken. -/
def elapse (s : Session) (time : Int) : Session := { s with runElapsed := s.runElapsed + time }

/-- The bomb goes off. -/
def explode (s : Session) (bombAt : Int) : Attempt Session Unit :=
  ((s.elapse bombAt).endRun .failure).after [.bombExploded s.ticks]

/-- Advances the run by `dt` nanoseconds, of whose ticks at most `cap` are asked for. -/
def advanceUpTo (cap : Option Int) (s : Session) (dt : Int) : Attempt Session Unit :=
  match s.interpreter.clocks with
  | .armed ticks bomb =>
    match bomb.tick dt none, ticks.tick dt cap with
    | .error f, _ | _, .error f => .failed s f
    | .ok (_, bombLeft), .ok (offsets, ticksLeft) =>
      let bombAt := bomb.expiryOffset dt
      let s := { s with interpreter := { s.interpreter with clocks := .armed ticksLeft bombLeft } }
      (s.runTicks bombAt offsets).andThen fun s ended =>
        match ended, bombAt with
        | some offset, _ => .done (s.elapse offset) ()
        | none, some offset => s.explode offset
        | none, none => .done (s.elapse dt) ()
  | _ => .failed s .clocksMissing

/-- The ticks that the rest of the program can take, the one that finds its end included. -/
def pendingTicks (s : Session) : Int :=
  (s.holdings.program.length : Int) - s.interpreter.pc + 1

/-- Advances the run by `dt` nanoseconds. -/
def advance (s : Session) (dt : Int) : Attempt Session Unit :=
  s.advanceUpTo (some s.pendingTicks) dt

/-! ## Commands -/

/-- Starts a run; its first tick is executed at once. -/
def beginRun (s : Session) (phases : PhaseMachine) : Attempt Session Unit :=
  let level := s.level.restored
  let s' := { s with phases, level, pose := level.start, ticks := 0, runElapsed := 0 }
  let s' := s'.announce [.phaseChanged .running]
  let armed := s'.interpreter.start s'.holdings.cpu s'.holdings.bombDuration
  ((armed.within fun interpreter => { s' with interpreter }).andThen fun s () =>
    (s.tick.andThen fun s _ => .done s ()).after
      [.runStarted s.holdings.program.length]).after
    [s.phases.goingTo phases]

/-- Gives up the run. -/
def resetRun (s : Session) (phases : PhaseMachine) : Attempt Session Unit :=
  .done ({ s with phases, interpreter := .idle }.announce [.phaseChanged .buying]) ()
    [s.phases.goingTo phases, .runReset]

/-- Replaces the program, which is possible only while buying. -/
def edit (s : Session) (change : Program → Except Fault Program) : Except Fault Session :=
  if s.running then .error (.refused .editWhileRunning)
  else (change s.holdings.program).map fun program =>
    { s with holdings := { s.holdings with program } }

/-- Buys an upgrade and applies it.  The answer tells whether it was bought. -/
def purchase (s : Session) (index : Int) : Attempt Session Bool :=
  if s.running then .done s false [.purchaseWhileRunning]
  else match s.holdings.upgrades.buy? index s.holdings.wallet with
    | .error (.refused note) => .done s false [note]
    | .error (.stopped fault) => .failed s fault
    | .ok sale =>
      let applied :=
        { s.holdings with upgrades := sale.graph, wallet := sale.wallet }.apply sale.node.kind
      let unlocked := applied.unlocked.toList.map fun i => Event.unlocksChanged i.category i
      let s := { s with holdings := applied.holdings }
      .done (s.announce (.upgradePurchased sale.node.kind index :: unlocked)).walletChanged true
        (.upgradeBought sale.node sale.revealed :: applied.journal)

/-- The answer to a command: whether it was carried out.  A refused one is noted and changes
nothing; any other fault is passed on. -/
def settle (s : Session) (c : Command) : Except Fault (Attempt Session Unit) → Attempt Session Bool
  | .error (.refused cause) => .done s false [.commandRejected c cause]
  | .error fault => .failed s fault
  | .ok attempt => attempt.andThen fun s () => .done s true

/-- What is not carried out changes nothing. -/
theorem settle_error_state (s : Session) (c : Command) (fault : Fault) :
    (s.settle c (.error fault)).state = s := by
  unfold settle
  split <;> trivial

/-- Carries out a command at once.  The answer tells whether it was carried out. -/
def dispatch (s : Session) : Submission → Attempt Session Bool
  | .unknown shown => .failed s (.unhandledCommand shown)
  | .command c => match c with
    | .startRun => s.settle c (s.phases.requestStart?.map s.beginRun)
    | .resetToBuying => s.settle c (s.phases.requestReset?.map s.resetRun)
    | .purchase index => s.purchase index
    | .addInstruction i =>
      s.settle c ((s.edit fun program =>
        (s.holdings.unlocks.require i).bind fun () => program.append? i).map (.done · ()))
    | .removeInstruction index =>
      s.settle c ((s.edit fun program => (program.remove? index).map (·.2)).map (.done · ()))
    | .pickUp amount =>
      s.settle c ((s.holdings.wallet.deposit? amount).map fun wallet =>
        .done { s with holdings := { s.holdings with wallet } }.walletChanged ())

end Session

end RobotWorkshop
