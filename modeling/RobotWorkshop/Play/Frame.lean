import RobotWorkshop.Play.Session

/-!
One frame of a session.  The queue is worked off until it is empty, although a command may add to
it: only the start of a run does, and it adds at most one pickup, which adds nothing
(`Session.dispatch_queue`).
-/

namespace RobotWorkshop.Session

/-! ## What a command adds to the queue -/

theorem endRun_queue (s : Session) (o : Outcome) : (s.endRun o).state.queue = s.queue := by
  unfold endRun
  split <;> rfl

/-- Collecting adds at most a pickup. -/
theorem collect_queue (s : Session) :
    s.collect.state.queue = s.queue ∨
      ∃ n, s.collect.state.queue = s.queue ++ [.command (.pickUp n)] := by
  unfold collect
  dsimp only
  split
  · exact Or.inl rfl
  · exact Or.inr ⟨_, rfl⟩

/-- A tick adds at most a pickup. -/
theorem tick_queue (s : Session) :
    s.tick.state.queue = s.queue ∨ ∃ n, s.tick.state.queue = s.queue ++ [.command (.pickUp n)] := by
  unfold tick
  split
  · exact Or.inl rfl
  · split
    · left
      have h := endRun_queue s .success
      simp only [Attempt.after, Attempt.andThen]
      split <;> simpa [Attempt.done] using h
    · rename_i ticked _ _ i _
      have h := collect_queue ({ s with
        interpreter := ticked.interpreter, pose := ticked.pose, ticks := s.ticks + 1 }.announce
          [.tickExecuted i (ticked.interpreter.pc - 1)])
      simp only [Attempt.after, Attempt.andThen]
      split <;> simpa [Attempt.done, announce] using h

/-- The start of a run adds at most a pickup. -/
theorem beginRun_queue (s : Session) (m : PhaseMachine) :
    (s.beginRun m).state.queue = s.queue ∨
      ∃ n, (s.beginRun m).state.queue = s.queue ++ [.command (.pickUp n)] := by
  unfold beginRun
  simp only [Attempt.after, Attempt.within, Attempt.andThen, Attempt.done]
  split
  · exact Or.inl rfl
  · have h := tick_queue { s with
      phases := m, level := s.level.restored, pose := s.level.restored.start, ticks := 0
      runElapsed := 0, outbox := s.outbox ++ [.phaseChanged .running]
      interpreter := (s.interpreter.start s.holdings.cpu s.holdings.bombDuration).state }
    split <;> simpa [announce] using h

/-- A command other than the start of a run leaves the queue alone. -/
theorem dispatch_queue_of_not_start {s : Session} {item : Submission} (h : ¬item.isStart) :
    (s.dispatch item).state.queue = s.queue := by
  have refused (c : Command) (fault : Fault) : (s.settle c (.error fault)).state.queue = s.queue :=
    congrArg queue (s.settle_error_state c fault)
  cases item with
  | unknown => rfl
  | command c =>
    cases c with
    | startRun => exact absurd rfl h
    | resetToBuying =>
      simp only [dispatch]
      cases s.phases.requestReset? with
      | error => exact refused _ _
      | ok => rfl
    | purchase index =>
      simp only [dispatch, purchase]
      split
      · rfl
      · split <;> rfl
    | addInstruction i =>
      simp only [dispatch, edit]
      split
      · rfl
      · cases (s.holdings.unlocks.require i).bind fun () => s.holdings.program.append? i with
        | error => exact refused _ _
        | ok => rfl
    | removeInstruction index =>
      simp only [dispatch, edit]
      split
      · rfl
      · cases s.holdings.program.remove? index with
        | error => exact refused _ _
        | ok => rfl
    | pickUp amount =>
      simp only [dispatch]
      cases s.holdings.wallet.deposit? amount with
      | error => exact refused _ _
      | ok => rfl

/-- The start of a run adds at most a pickup, and no other command adds anything. -/
theorem dispatch_queue (s : Session) (item : Submission) :
    (s.dispatch item).state.queue = s.queue ∨
      item.isStart ∧ ∃ n, (s.dispatch item).state.queue = s.queue ++ [.command (.pickUp n)] := by
  by_cases start : item.isStart
  · cases item with
    | unknown => simp [Submission.isStart] at start
    | command c =>
      cases c with
      | startRun =>
        simp only [dispatch]
        cases s.phases.requestStart? with
        | error => exact Or.inl (congrArg queue (s.settle_error_state _ _))
        | ok m =>
          have h := beginRun_queue s m
          simp only [Except.map, settle, Attempt.andThen, Attempt.done]
          split <;> simpa [Submission.isStart] using h
      | _ => simp [Submission.isStart] at start
  · exact Or.inl (dispatch_queue_of_not_start start)

/-! ## The queue and the frame -/

/-- The number of commands that a queue may still come to. -/
def workload (queue : List Submission) : Nat := queue.length + queue.countP Submission.isStart

theorem workload_dispatch (s : Session) (item : Submission) (rest : List Submission) :
    workload ({ s with queue := rest }.dispatch item).state.queue < workload (item :: rest) := by
  rcases dispatch_queue { s with queue := rest } item with h | ⟨start, n, h⟩ <;> rw [h]
  · simp only [workload, List.length_cons, List.countP_cons]
    omega
  · have : Submission.isStart (.command (.pickUp n)) = false := rfl
    simp [workload, List.countP_append, start, this]

/-- Works off the queue, first in first out.  A fault uses up the command that caused it; what
stands behind it stays queued. -/
def runQueue (s : Session) : Attempt Session Unit :=
  match _h : s.queue with
  | [] => .done s ()
  | item :: rest =>
    let first := { s with queue := rest }.dispatch item
    match first.result with
    | .error fault => .failed first.state fault first.journal
    | .ok _ => first.state.runQueue.after first.journal
termination_by workload s.queue
decreasing_by
  rw [_h]
  exact workload_dispatch s item rest

/-- The run stage of a frame of that many seconds, which are looked at only while a run goes on. -/
def runStage (s : Session) (seconds : Float) : Attempt Session Unit :=
  if s.running then
    match Nanos.ofSeconds? seconds with
    | .error f => .failed s f
    | .ok dt => s.advance dt
  else .done s ()

/-- One frame of that many seconds.  The answer is what is in the outbox at its end. -/
def update (s : Session) (seconds : Float) : Attempt Session (List Event) :=
  ((s.runStage seconds).andThen fun s () => s.runQueue).andThen fun s () =>
    .done s.drain.2 s.drain.1

end RobotWorkshop.Session
