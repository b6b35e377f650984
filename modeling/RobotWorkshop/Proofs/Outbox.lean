import RobotWorkshop.Proofs.History
import RobotWorkshop.Proofs.RunStart

/-!
Nothing that a session does looks at its outbox, and only working off the queue looks at the queue.
Behind other commands and other events a session does the same and leaves them in front,

    (s.preceded q o).dispatch item = (s.dispatch item).within (·.preceded q o)  (dispatch_preceded)

so it makes no difference when the outbox is drained: the same events are told in the same order,
and the sessions differ only in how many of them are still in the outbox (`Session.stream_behind`,
`Session.stream_undrained`).
-/

namespace RobotWorkshop

theorem Attempt.within_andThen {σ τ α β : Type} {a : Attempt σ α} {e : σ → τ}
    {k : σ → α → Attempt σ β} {l : τ → α → Attempt τ β} (h : ∀ s v, l (e s) v = (k s v).within e) :
    (a.within e).andThen l = (a.andThen k).within e := by
  obtain ⟨result, state, journal⟩ := a
  cases result with
  | error fault => rfl
  | ok v => simp only [andThen, within, h]

namespace Session

/-- The session with these commands in front of its queue, and these events in front of its outbox.
-/
def preceded (s : Session) (q : List Submission) (o : List Event) : Session :=
  { s with queue := q ++ s.queue, outbox := o ++ s.outbox }

/-- The session whose outbox stands behind these events. -/
def behind (s : Session) (o : List Event) : Session := { s with outbox := o ++ s.outbox }

variable (s : Session) (q : List Submission) (o : List Event)

theorem drained_behind : s.drain.2.behind s.outbox = s := by
  show { s with outbox := s.outbox ++ [] } = s
  rw [List.append_nil]

/-! ## Small steps -/

theorem submit_preceded (item : Submission) :
    (s.preceded q o).submit item = (s.submit item).preceded q o :=
  congrArg (fun queue => { s with queue, outbox := o ++ s.outbox })
    (List.append_assoc q s.queue [item])

theorem announce_preceded (events : List Event) :
    (s.preceded q o).announce events = (s.announce events).preceded q o :=
  congrArg (fun outbox => { s with queue := q ++ s.queue, outbox })
    (List.append_assoc o s.outbox events)

theorem walletChanged_preceded : (s.preceded q o).walletChanged = s.walletChanged.preceded q o :=
  announce_preceded
    { s with offers := s.holdings.upgrades.offers s.holdings.wallet.balance } q o _

theorem endRun_preceded (outcome : Outcome) :
    (s.preceded q o).endRun outcome = (s.endRun outcome).within (·.preceded q o) := by
  unfold endRun
  rw [show (s.preceded q o).phases = s.phases from rfl]
  cases s.phases.finishRun? with
  | error f => rfl
  | ok phases =>
    have told := announce_preceded
      { s with interpreter := .idle, phases, lastOutcome := some outcome } q o
      [.runCompleted outcome s.ticks, .phaseChanged .buying]
    exact congrArg (Attempt.done · () [s.phases.goingTo phases]) told

theorem collect_preceded : (s.preceded q o).collect = s.collect.within (·.preceded q o) := by
  unfold collect
  dsimp only
  rw [show (s.preceded q o).level = s.level from rfl, show (s.preceded q o).pose = s.pose from rfl]
  split
  · rfl
  · exact congrArg (Attempt.done · () _)
      (submit_preceded { s with level := (s.level.collect s.pose.position).2 } q o _)

theorem tick_preceded : (s.preceded q o).tick = s.tick.within (·.preceded q o) := by
  unfold tick
  rw [show (s.preceded q o).interpreter = s.interpreter from rfl,
    show (s.preceded q o).holdings = s.holdings from rfl, show (s.preceded q o).pose = s.pose from rfl]
  cases s.interpreter.tick? s.holdings.program s.pose with
  | error f => rfl
  | ok ticked =>
    obtain ⟨interpreter, pose, instruction, journal⟩ := ticked
    cases instruction with
    | none =>
      dsimp only
      rw [endRun_preceded, Attempt.within_andThen (k := fun s () => .done s false) fun _ _ => rfl]
      rfl
    | some i =>
      show (((preceded { s with interpreter, pose, ticks := s.ticks + 1 } q o).announce
        [.tickExecuted i (interpreter.pc - 1)]).collect.andThen
          fun s () => .done s true).after journal = _
      rw [announce_preceded, collect_preceded,
        Attempt.within_andThen (k := fun s () => .done s true) fun _ _ => rfl]
      rfl

/-! ## The run in a frame -/

theorem runTicks_preceded (bombAt : Option Int) (offsets : List Int) :
    (s.preceded q o).runTicks bombAt offsets =
      (s.runTicks bombAt offsets).within (·.preceded q o) := by
  induction offsets generalizing s with
  | nil => rfl
  | cons offset offsets ih =>
    unfold runTicks
    split
    · rfl
    · rw [tick_preceded]
      refine Attempt.within_andThen fun t goesOn => ?_
      cases goesOn with
      | true => exact ih t
      | false => rfl

theorem explode_preceded (bombAt : Int) :
    (s.preceded q o).explode bombAt = (s.explode bombAt).within (·.preceded q o) :=
  congrArg (Attempt.after · [.bombExploded s.ticks]) ((s.elapse bombAt).endRun_preceded q o .failure)

theorem advanceUpTo_preceded (cap : Option Int) (dt : Int) :
    (s.preceded q o).advanceUpTo cap dt = (s.advanceUpTo cap dt).within (·.preceded q o) := by
  unfold advanceUpTo
  rw [show (s.preceded q o).interpreter = s.interpreter from rfl]
  cases s.interpreter.clocks with
  | absent => rfl
  | ticksOnly ticks => rfl
  | armed ticks bomb =>
    dsimp only
    cases bomb.tick dt none with
    | error f => rfl
    | ok bombTicked =>
      cases ticks.tick dt cap with
      | error f => rfl
      | ok ticked =>
        show ((preceded { s with
          interpreter := { s.interpreter with clocks := .armed ticked.2 bombTicked.2 } } q o).runTicks
            (bomb.expiryOffset dt) ticked.1).andThen _ = _
        rw [runTicks_preceded]
        refine Attempt.within_andThen fun t ended => ?_
        cases ended with
        | some offset => rfl
        | none =>
          cases bomb.expiryOffset dt with
          | some offset => exact t.explode_preceded q o offset
          | none => rfl

/-- **The run stage** does the same behind other commands and events. -/
theorem runStage_preceded (seconds : Float) :
    (s.preceded q o).runStage seconds = (s.runStage seconds).within (·.preceded q o) := by
  unfold runStage
  rw [show (s.preceded q o).running = s.running from rfl]
  split
  · cases Nanos.ofSeconds? seconds with
    | error f => rfl
    | ok dt => exact s.advanceUpTo_preceded q o _ dt
  · rfl

/-! ## Commands -/

theorem beginRun_preceded :
    (s.preceded q o).beginRun (.entered .running) =
      (s.beginRun (.entered .running)).within (·.preceded q o) := by
  have started : (s.preceded q o).atStart = fun interpreter => (s.atStart interpreter).preceded q o :=
    funext fun interpreter => announce_preceded { s.atStart interpreter with outbox := s.outbox } q o _
  have ticked : ∀ t : Session, ((t.preceded q o).tick.andThen fun t _ => .done t ()) =
      (t.tick.andThen fun t _ => .done t ()).within (·.preceded q o) := by
    intro t
    rw [tick_preceded]
    exact Attempt.within_andThen fun _ _ => rfl
  rw [beginRun_eq, beginRun_eq, started]
  refine congrArg (Attempt.after · [s.phases.goingTo (.entered .running)])
    (Attempt.within_andThen (a := Attempt.within _ s.atStart) (e := (·.preceded q o)) fun t _ => ?_)
  exact congrArg (Attempt.after · [.runStarted t.holdings.program.length]) (ticked t)

theorem edit_preceded (change : Program → Except Fault Program) :
    (s.preceded q o).edit change = (s.edit change).map (·.preceded q o) := by
  unfold edit
  rw [show (s.preceded q o).running = s.running from rfl,
    show (s.preceded q o).holdings = s.holdings from rfl]
  split
  · rfl
  · cases change s.holdings.program <;> rfl

theorem settle_error_preceded (c : Command) (fault : Fault) :
    (s.preceded q o).settle c (.error fault) =
      (s.settle c (.error fault)).within (·.preceded q o) := by
  cases fault <;> rfl

/-- **A command** does the same behind other commands and events. -/
theorem dispatch_preceded (item : Submission) :
    (s.preceded q o).dispatch item = (s.dispatch item).within (·.preceded q o) := by
  cases item with
  | unknown shown => rfl
  | command c =>
    cases c with
    | startRun =>
      simp only [dispatch]
      rw [show (s.preceded q o).phases = s.phases from rfl]
      cases h : s.phases.requestStart? with
      | error fault => exact s.settle_error_preceded q o _ fault
      | ok phases =>
        obtain ⟨-, -, rfl⟩ := requestStart?_eq_ok h
        simp only [Except.map, settle]
        rw [beginRun_preceded]
        exact Attempt.within_andThen fun _ _ => rfl
    | resetToBuying =>
      simp only [dispatch]
      rw [show (s.preceded q o).phases = s.phases from rfl]
      cases s.phases.requestReset? with
      | error fault => exact s.settle_error_preceded q o _ fault
      | ok phases =>
        have told :=
          announce_preceded { s with phases, interpreter := .idle } q o [.phaseChanged .buying]
        exact congrArg (Attempt.done · true _) told
    | purchase index =>
      simp only [dispatch, purchase]
      rw [show (s.preceded q o).running = s.running from rfl,
        show (s.preceded q o).holdings = s.holdings from rfl]
      split
      · rfl
      · cases s.holdings.upgrades.buy? index s.holdings.wallet with
        | error unsold => cases unsold <;> rfl
        | ok sale =>
          have bought : (s.preceded q o).bought index sale = (s.bought index sale).preceded q o := by
            unfold bought
            dsimp only
            rw [← walletChanged_preceded, ← announce_preceded]
            rfl
          exact congrArg (Attempt.done · true _) bought
    | addInstruction i =>
      simp only [dispatch]
      rw [edit_preceded, show (s.preceded q o).holdings = s.holdings from rfl]
      cases s.edit fun program =>
        (s.holdings.unlocks.require i).bind fun () => program.append? i with
      | error fault => exact s.settle_error_preceded q o _ fault
      | ok t => rfl
    | removeInstruction index =>
      simp only [dispatch]
      rw [edit_preceded]
      cases s.edit fun program => (program.remove? index).map (·.2) with
      | error fault => exact s.settle_error_preceded q o _ fault
      | ok t => rfl
    | pickUp amount =>
      simp only [dispatch]
      rw [show (s.preceded q o).holdings = s.holdings from rfl]
      cases s.holdings.wallet.deposit? amount with
      | error fault => exact s.settle_error_preceded q o _ fault
      | ok wallet =>
        have told := walletChanged_preceded { s with holdings := { s.holdings with wallet } } q o
        exact congrArg (Attempt.done · true _) told

/-! ## Behind other events -/

theorem runStage_behind (seconds : Float) :
    (s.behind o).runStage seconds = (s.runStage seconds).within (·.behind o) :=
  s.runStage_preceded [] o seconds

theorem dispatch_behind (item : Submission) :
    (s.behind o).dispatch item = (s.dispatch item).within (·.behind o) :=
  s.dispatch_preceded [] o item

theorem runQueue_behind : (s.behind o).runQueue = s.runQueue.within (·.behind o) := by
  induction s using queue_induction with
  | nil s queue =>
    rw [runQueue_of_nil queue, runQueue_of_nil (s := s.behind o) queue]
    rfl
  | cons s item rest queue ih =>
    rw [runQueue_of_cons queue, runQueue_of_cons (s := s.behind o) queue]
    dsimp only
    rw [show dispatch { s.behind o with queue := rest } item = _ from
      dispatch_behind { s with queue := rest } o item]
    cases result : (dispatch { s with queue := rest } item).result with
    | error fault =>
      rw [show (Attempt.within _ _).result = _ from result]
      rfl
    | ok answer =>
      rw [show (Attempt.within _ _).result = _ from result]
      exact congrArg (Attempt.after · _) ih

/-! ## Moves -/

theorem perform_dispatch_silent (item : Submission) :
    (s.perform (.dispatch item)).result.toOption.getD [] = [] := by
  rw [(perform_dispatch s item).2]
  cases (s.dispatch item).result <;> rfl

/-- All that is told along some moves: what they hand over and what is still in the outbox. -/
def stream (s : Session) (moves : List Move) : List Event :=
  s.emitted moves ++ (s.after moves).outbox

/-- A move keeps the events that it finds in front, or hands them over first. -/
theorem perform_behind (m : Move) :
    ∃ o', ((s.behind o).perform m).state = (s.perform m).state.behind o' ∧
      ((s.behind o).perform m).result.toOption.getD [] ++ o' =
        o ++ (s.perform m).result.toOption.getD [] := by
  cases m with
  | submit item => exact ⟨o, rfl, (List.append_nil o).symm⟩
  | dispatch item =>
    have state := (perform_dispatch (s.behind o) item).1
    rw [dispatch_behind] at state
    refine ⟨o, state.trans (congrArg (·.behind o) (perform_dispatch s item).1.symm), ?_⟩
    rw [perform_dispatch_silent, perform_dispatch_silent]
    exact (List.append_nil o).symm
  | drain => exact ⟨[], rfl, List.append_nil _⟩
  | setControls controls => exact ⟨o, rfl, (List.append_nil o).symm⟩
  | update seconds =>
    have worked : ((s.behind o).runStage seconds).andThen (fun t () => t.runQueue) =
        ((s.runStage seconds).andThen fun t () => t.runQueue).within (·.behind o) := by
      rw [runStage_behind]
      exact Attempt.within_andThen fun t _ => t.runQueue_behind o
    simp only [perform, update, worked]
    generalize (s.runStage seconds).andThen (fun t () => t.runQueue) = a
    obtain ⟨result, state, journal⟩ := a
    cases result with
    | error fault => exact ⟨o, rfl, (List.append_nil o).symm⟩
    | ok answer => exact ⟨[], rfl, List.append_nil _⟩

theorem stream_cons (m : Move) (moves : List Move) :
    s.stream (m :: moves) =
      (s.perform m).result.toOption.getD [] ++ (s.perform m).state.stream moves :=
  List.append_assoc _ _ _

/-- Events that are in front to begin with are told first, and all else is the same. -/
theorem stream_behind (moves : List Move) :
    (s.behind o).stream moves = o ++ s.stream moves ∧
      ((s.behind o).after moves).drain.2 = (s.after moves).drain.2 := by
  induction moves generalizing s o with
  | nil => exact ⟨rfl, rfl⟩
  | cons m moves ih =>
    obtain ⟨o', state, told⟩ := s.perform_behind o m
    obtain ⟨rest, left⟩ := ih (s.perform m).state o'
    constructor
    · rw [stream_cons, stream_cons, state, rest, ← List.append_assoc, told, List.append_assoc]
    · show (((s.behind o).perform m).state.after moves).drain.2 = _
      rw [state]
      exact left

def Move.isDrain : Move → Bool
  | .drain => true
  | _ => false

/-- Without the drains among them some moves tell the same and lead to the same, up to what is in
the outbox. -/
theorem stream_undrained (moves : List Move) :
    s.stream (moves.filter (!·.isDrain)) = s.stream moves ∧
      (s.after (moves.filter (!·.isDrain))).drain.2 = (s.after moves).drain.2 := by
  induction moves generalizing s with
  | nil => exact ⟨rfl, rfl⟩
  | cons m moves ih =>
    cases drain : m.isDrain with
    | true =>
      obtain rfl : m = .drain := by
        cases m with
        | drain => rfl
        | _ => cases drain
      obtain ⟨told, left⟩ := s.drain.2.stream_behind s.outbox moves
      rw [drained_behind] at told left
      obtain ⟨same, same'⟩ := ih s
      rw [List.filter_cons_of_neg (by simp [drain])]
      exact ⟨same.trans (told.trans (s.stream_cons .drain moves).symm), same'.trans left⟩
    | false =>
      obtain ⟨same, same'⟩ := ih (s.perform m).state
      rw [List.filter_cons_of_pos (by simp [drain]), stream_cons, stream_cons, same]
      exact ⟨rfl, same'⟩

end Session

end RobotWorkshop
