import RobotWorkshop.Proofs.PacedFrames
import RobotWorkshop.Proofs.Parameters
import RobotWorkshop.Proofs.Refusals

/-!
Between the steps of a script.  Then the shop is open, there are no clocks, nothing is queued or
left to be told, and the level is the one of the game (`Session.Between`).  A command that is
ordered, other than the start of a run, is carried out or refused and leaves it so, if it is
answered at all, and to wait changes nothing

    (s.order c).Gives events t  with  t.Between level          (Between.order)
    s.update seconds = .done s []                              (Between.wait)

A run that is given up leaves it so, too (`Steady.order_reset`).
-/

namespace RobotWorkshop

namespace Session

/-- The session between the steps of a script, in a game on this level. -/
structure Between (level : Level) (s : Session) : Prop where
  entered : s.phases = .entered .buying
  idle : s.interpreter = .idle
  queue : s.queue = []
  outbox : s.outbox = []
  start : s.level.start = level.start
  layout : s.level.layout = level.layout

variable {level : Level} {s t u : Session} {c : Command}

namespace Between

theorem buying (h : s.Between level) : s.running = false := by
  show s.phases.running = false
  rw [h.entered]
  rfl

theorem resting (h : s.Between level) : s.Resting := ⟨h.buying, h.idle⟩

theorem active (h : s.Between level) : s.phases.controls.runActive = true := by
  rw [h.entered]
  rfl

/-- A game begins so. -/
theorem new (holdings : Holdings) (level : Level) : (Session.new holdings level).Between level :=
  ⟨rfl, rfl, rfl, rfl, rfl, rfl⟩

/-- What the holdings are makes no difference. -/
theorem congr (h : s.Between level) (phases : t.phases = s.phases)
    (interpreter : t.interpreter = s.interpreter) (lvl : t.level = s.level) (queue : t.queue = [])
    (outbox : t.outbox = []) : t.Between level where
  entered := phases.trans h.entered
  idle := interpreter.trans h.idle
  queue := queue
  outbox := outbox
  start := lvl ▸ h.start
  layout := lvl ▸ h.layout

end Between

/-! ## Orders -/

/-- A frame of no length leaves the run where it is. -/
theorem Steady.runStage_zero (steady : s.Steady) : (s.runStage 0.0).Gives () s := by
  rcases steady with rest | ⟨ticks, bomb, run⟩
  · rw [runStage_of_buying rest.buying]
    exact Attempt.gives_done _ _ _
  · have nothing : Nanos.ofSeconds? 0.0 = .ok 0 := by decide +kernel
    have stayed := run.runStage_gives nothing (Int.le_refl 0)
    rwa [Int.add_zero, run.runUntil_now] at stayed

section
variable (steady : s.Steady) (queue : s.queue = [])
include steady queue

theorem Steady.order_stage :
    ((s.submit (.command c)).runStage 0.0).Gives () (s.submit (.command c)) ∧
      (s.submit (.command c)).queue = [.command c] ∧
        { s.submit (.command c) with queue := [] } = s := by
  refine ⟨Steady.runStage_zero (steady.congr rfl rfl rfl rfl rfl), ?_, ?_⟩
  · show s.queue ++ [.command c] = _
    rw [queue]
    rfl
  · rw [← queue]
    rfl

/-- An order is a command that is dispatched; what it queues is worked off in the same frame. -/
theorem Steady.order_gives {answer : Bool} (given : (s.dispatch (.command c)).Gives answer t)
    (worked : t.runQueue.Gives () u) : (s.order c).Gives u.outbox u.drain.2 := by
  obtain ⟨stage, queued, same⟩ := steady.order_stage queue (c := c)
  have all : (s.submit (.command c)).runQueue.Gives () u :=
    runQueue_gives_of_cons queued (same.symm ▸ given) worked
  rw [← stage.state] at all
  obtain ⟨result, state⟩ := update_of_ok stage.result all.result
  rw [all.state] at result state
  exact ⟨result, state⟩

theorem Steady.order_fails {fault : Fault}
    (failed : (s.dispatch (.command c)).result = .error fault) :
    (s.order c).result = .error fault := by
  obtain ⟨stage, queued, same⟩ := steady.order_stage queue (c := c)
  have stopped : (s.submit (.command c)).runQueue.result = .error fault := by
    rw [runQueue_of_cons queued]
    dsimp only
    rw [same, failed]
    rfl
  rw [← stage.state] at stopped
  exact (update_of_queue_error stage.result stopped).1

/-- What it queues may be stopped by a fault, too. -/
theorem Steady.order_stops {answer : Bool} {fault : Fault}
    (given : (s.dispatch (.command c)).Gives answer t) (stopped : t.runQueue.result = .error fault) :
    (s.order c).result = .error fault := by
  obtain ⟨stage, queued, same⟩ := steady.order_stage queue (c := c)
  have all : (s.submit (.command c)).runQueue.result = .error fault :=
    runQueue_fails_of_cons queued (same.symm ▸ given) stopped
  rw [← stage.state] at all
  exact (update_of_queue_error stage.result all).1

end

/-! ## Steps that run nothing -/

/-- **Step lemma.**  Between steps, any command but a start is dealt with without a fault, if it is
answered. -/
theorem Between.dispatch (h : s.Between level) (no_start : c ≠ .startRun) (answered : s.Answers c) :
    ∃ answer t, (s.dispatch (.command c)).Gives answer t ∧ t.queue = [] ∧
      { t with outbox := [] }.Between level := by
  have carried := dispatch_carried s (.command c)
  rw [answers_iff] at answered
  generalize s.dispatch (.command c) = a at carried answered ⊢
  have unmoved : ∀ t : Session, t.phases = s.phases → t.interpreter = s.interpreter →
      t.level = s.level → t.queue = s.queue →
      t.queue = [] ∧ { t with outbox := [] }.Between level := by
    intro t phases interpreter lvl queue
    exact ⟨queue.trans h.queue, h.congr phases interpreter lvl (queue.trans h.queue) rfl⟩
  cases carried with
  | refused c journal => exact ⟨_, s, Attempt.gives_done _ _ _, unmoved s rfl rfl rfl rfl⟩
  | untold => exact absurd rfl answered
  | started => exact absurd rfl no_start
  | reset journal running => exact absurd (running.symm.trans h.buying) (by simp)
  | bought => exact ⟨_, _, Attempt.gives_done _ _ _, unmoved _ rfl rfl rfl rfl⟩
  | added => exact ⟨_, _, Attempt.gives_done _ _ _, unmoved _ rfl rfl rfl rfl⟩
  | removed => exact ⟨_, _, Attempt.gives_done _ _ _, unmoved _ rfl rfl rfl rfl⟩
  | credited => exact ⟨_, _, Attempt.gives_done _ _ _, unmoved _ rfl rfl rfl rfl⟩

theorem Between.order (h : s.Between level) (no_start : c ≠ .startRun) (answered : s.Answers c) :
    ∃ events t, (s.order c).Gives events t ∧ t.Between level := by
  obtain ⟨answer, t, given, queue, between⟩ := h.dispatch no_start answered
  have worked : t.runQueue.Gives () t := by
    rw [runQueue_of_nil queue]
    exact Attempt.gives_done _ _ _
  exact ⟨_, _, Steady.order_gives (.inl h.resting) h.queue given worked, between⟩

/-- A command that is not answered stops the frame of its order. -/
theorem Between.order_untold (h : s.Between level) (unanswered : ¬s.Answers c) :
    (s.order c).result = .error .numberTooLong := by
  rw [answers_iff, not_not] at unanswered
  exact Steady.order_fails (.inl h.resting) h.queue unanswered

/-- To wait changes nothing, however long. -/
theorem Between.wait (h : s.Between level) (seconds : Float) : s.update seconds = .done s [] := by
  have stage : s.runStage seconds = .done s () := runStage_of_buying h.buying seconds
  have worked : s.runQueue = .done s () := runQueue_of_nil h.queue
  have drained : s.drain = ([], s) := by
    show (s.outbox, { s with outbox := [] }) = _
    rw [← h.outbox]
  unfold update
  rw [stage]
  show (s.runQueue.after []).andThen _ = _
  rw [worked]
  show Attempt.done s.drain.2 s.drain.1 = _
  rw [drained]

/-! ## A run that is given up -/

/-- A run that stands at the end of a frame is given up by an order. -/
theorem Steady.order_reset {ticks bomb : Timer} (run : s.InRun ticks bomb) (clear : s.Clear)
    (entered : s.phases = .entered .running) (start : s.level.start = level.start)
    (layout : s.level.layout = level.layout) :
    ∃ events t, (s.order .resetToBuying).Gives events t ∧ t.Between level := by
  have accepted : (s.dispatch (.command .resetToBuying)).Gives true s.givenUp := by
    show (s.settle .resetToBuying (s.phases.requestReset?.map s.resetRun)).Gives true s.givenUp
    rw [entered]
    exact ⟨rfl, rfl⟩
  have worked : s.givenUp.runQueue.Gives () s.givenUp := by
    rw [runQueue_of_nil (show s.givenUp.queue = [] from clear.queue)]
    exact Attempt.gives_done _ _ _
  have steady : s.Steady := .inr ⟨ticks, bomb, run⟩
  exact ⟨_, _, steady.order_gives clear.queue accepted worked,
    ⟨rfl, rfl, clear.queue, rfl, start, layout⟩⟩

end Session

/-! ## Playthroughs -/

namespace Playthrough

variable {level : Level} {pace : ScriptSettings} {frames : Nat} {p q : Playthrough} {step : Step}

/-- What is done with the session is done with the playthrough. -/
theorem quietly_gives {a : Attempt Session (List Event)} {events : List Event} {t : Session}
    (gives : a.Gives events t) (p : Playthrough) :
    ((a.within fun session => { p with session }).andThen fun p _ => .done p ()).Gives ()
      { p with session := t } :=
  (gives.within _).andThen (Attempt.gives_done _ _ _)

/-- The command that a step orders, unless it runs the program or waits. -/
def ordered (p : Playthrough) (step : Step) : Option Command :=
  match h : step.action with
  | .run | .wait => none
  | .add => some (.addInstruction (step.instruction.get (step.add_has_instruction h)))
  | .remove =>
    some (.removeInstruction (step.index.getD (p.session.holdings.program.length - 1)))
  | .purchase => some (.purchase (step.index.getD 0))
  | .pickUp => some (.pickUp (step.amount.getD 0))

theorem perform_of_ordered {c : Command} (orders : p.ordered step = some c) :
    c ≠ .startRun ∧ ∀ pace frames, p.perform pace frames step =
      (((p.session.order c).within fun session => { p with session }).andThen
        fun p _ => .done p ()) := by
  obtain ⟨action, instruction, index, amount, seconds, has⟩ := step
  cases action <;> first | cases orders; exact ⟨nofun, fun _ _ => rfl⟩ | cases orders

/-- To order nothing is to run or to wait. -/
theorem wait_of_not_ordered (orders : p.ordered step = none) (other : step.action ≠ .run) :
    step.action = .wait := by
  obtain ⟨action, instruction, index, amount, seconds, has⟩ := step
  cases action <;> first | rfl | exact absurd rfl other | cases orders

/-- **To wait is to do nothing.** -/
theorem perform_of_wait (h : p.session.Between level) (wait : step.action = .wait) :
    p.perform pace frames step = .done p () := by
  obtain ⟨action, instruction, index, amount, seconds, has⟩ := step
  obtain rfl : action = .wait := wait
  show ((p.session.update (seconds.getD 0.0)).within fun session => { p with session }).andThen
    (fun p _ => .done p ()) = _
  rw [h.wait]
  rfl

/-- The command of a step is answered, if it orders one. -/
def Answers (p : Playthrough) (step : Step) : Prop :=
  ∀ c, p.ordered step = some c → p.session.Answers c

/-- **Step lemma.**  A step that runs nothing leaves the records as they are and the shop open, if
its command is answered. -/
theorem perform_of_not_run (h : p.session.Between level) (other : step.action ≠ .run)
    (answered : p.Answers step) :
    ∃ s, s.Between level ∧
      ∀ pace frames, (p.perform pace frames step).Gives () { p with session := s } := by
  cases orders : p.ordered step with
  | none =>
    have wait := wait_of_not_ordered orders other
    refine ⟨p.session, h, fun pace frames => ?_⟩
    rw [perform_of_wait h wait]
    exact Attempt.gives_done _ _ _
  | some c =>
    obtain ⟨no_start, performs⟩ := perform_of_ordered orders
    obtain ⟨events, t, gives, between⟩ := h.order no_start (answered c orders)
    refine ⟨t, between, fun pace frames => ?_⟩
    rw [performs]
    exact quietly_gives gives p

/-- A step whose command is not answered is stopped. -/
theorem perform_of_unanswered (h : p.session.Between level) (unanswered : ¬p.Answers step) :
    (p.perform pace frames step).result = .error .numberTooLong := by
  unfold Answers at unanswered
  push Not at unanswered
  obtain ⟨c, orders, unanswered⟩ := unanswered
  rw [(perform_of_ordered orders).2]
  have stopped : ((p.session.order c).within fun session => { p with session }).result =
      .error .numberTooLong := h.order_untold unanswered
  exact (Attempt.andThen_of_error _ stopped).1

theorem answers_of_perform (h : p.session.Between level)
    (done : (p.perform pace frames step).Gives () q) : p.Answers step := by
  by_contra unanswered
  cases done.result.symm.trans (perform_of_unanswered h unanswered)

/-- A step that runs the program plays a run and keeps its record. -/
theorem perform_of_run (run : step.action = .run) :
    p.perform pace frames step =
      ((p.session.playRun pace frames p.records.length).within
        fun session => { p with session }).andThen fun p record =>
          if record.report.isWritable then .done { p with records := p.records ++ [record] } ()
          else .failed p .numberTooLong := by
  obtain ⟨action, instruction, index, amount, seconds, has⟩ := step
  obtain rfl : action = .run := run
  rfl

/-- Steps that are carried out in two parts. -/
theorem performAll_append {first more : List Step}
    (all : (p.performAll pace frames (first ++ more)).Gives () q) :
    ∃ m, (p.performAll pace frames first).Gives () m ∧ (m.performAll pace frames more).Gives () q := by
  induction first generalizing p with
  | nil => exact ⟨p, Attempt.gives_done _ _ _, all⟩
  | cons step steps ih =>
    rw [List.cons_append, performAll] at all
    obtain ⟨⟨⟩, m, done_first, rest⟩ := all.of_andThen
    obtain ⟨m', others, last⟩ := ih rest
    exact ⟨m', done_first.andThen others, last⟩

end Playthrough

end RobotWorkshop
