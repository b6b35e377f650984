import RobotWorkshop.Proofs.Attempts
import RobotWorkshop.Proofs.Commands

/-!
Histories of a session.  A host submits and dispatches commands, lets frames pass, drains the outbox
and sets the controls, in any order (`Move`); a fault of one move leaves a state behind like any
other and the next move starts from there.
-/

namespace RobotWorkshop.Session

/-- What a host may do with a session. -/
inductive Move where
  | submit (item : Submission)
  | dispatch (item : Submission)
  | update (seconds : Float)
  | drain
  | setControls (controls : Controls)

/-- One move.  The answer is the events that it hands over. -/
def perform (s : Session) : Move → Attempt Session (List Event)
  | .submit item => .done (s.submit item) []
  | .dispatch item => (s.dispatch item).andThen fun s _ => .done s []
  | .update seconds => s.update seconds
  | .drain => .done s.drain.2 s.drain.1
  | .setControls controls => .done { s with phases := { s.phases with controls } } []

/-- A command that is dispatched leaves behind what it leaves behind, and hands nothing over. -/
theorem perform_dispatch (s : Session) (item : Submission) :
    (s.perform (.dispatch item)).state = (s.dispatch item).state ∧
      (s.perform (.dispatch item)).result = (s.dispatch item).result.map fun _ => [] := by
  show ((s.dispatch item).andThen fun s _ => .done s []).state = _ ∧
    ((s.dispatch item).andThen fun s _ => .done s []).result = _
  cases result : (s.dispatch item).result with
  | error fault =>
    obtain ⟨result', state⟩ :=
      Attempt.andThen_of_error (fun t _ => Attempt.done t ([] : List Event)) result
    exact ⟨state, result'⟩
  | ok answer =>
    obtain ⟨result', state⟩ :=
      Attempt.andThen_of_ok (fun t _ => Attempt.done t ([] : List Event)) result
    exact ⟨state, result'⟩

/-- The session after some moves. -/
def after (s : Session) : List Move → Session
  | [] => s
  | m :: moves => (s.perform m).state.after moves

theorem after_append (s : Session) (moves more : List Move) :
    s.after (moves ++ more) = (s.after moves).after more := by
  induction moves generalizing s with
  | nil => rfl
  | cons m moves ih => exact ih _

/-- The events that some moves hand over, in order. -/
def emitted (s : Session) : List Move → List Event
  | [] => []
  | m :: moves => (s.perform m).result.toOption.getD [] ++ (s.perform m).state.emitted moves

theorem emitted_append (s : Session) (moves more : List Move) :
    s.emitted (moves ++ more) = s.emitted moves ++ (s.after moves).emitted more := by
  induction moves generalizing s with
  | nil => rfl
  | cons m moves ih =>
    show _ ++ (s.perform m).state.emitted (moves ++ more) = _
    rw [ih, ← List.append_assoc]
    rfl

/-- **Run lemma.**  What holds at first and is kept by each move of a history holds at its end. -/
theorem after_induction {P : Session → Prop} (step : ∀ s m, P s → P (s.perform m).state) {s : Session}
    (h : P s) (moves : List Move) : P (s.after moves) := by
  induction moves generalizing s with
  | nil => exact h
  | cons m moves ih => exact ih (step s m h)

/-! ## Starts that fail -/

/-- The commands that a move comes to, each with the session that it is given to. -/
def dealt (s : Session) : Move → List (Session × Submission)
  | .dispatch item => [(s, item)]
  | .update seconds =>
    match (s.runStage seconds).result with
    | .error _ => []
    | .ok () => (s.runStage seconds).state.handled
  | _ => []

/-- A command to start a run is stopped by a fault in that move. -/
def StartRaises (s : Session) (m : Move) : Prop :=
  ∃ given ∈ s.dealt m, given.2 = .command .startRun ∧ (given.1.dispatch given.2).Raises

instance (s : Session) (m : Move) : Decidable (s.StartRaises m) :=
  inferInstanceAs (Decidable (∃ given ∈ s.dealt m,
    given.2 = .command .startRun ∧ (given.1.dispatch given.2).Raises))

/-- No command to start a run is stopped by a fault. -/
def NoStartRaises (s : Session) : List Move → Prop
  | [] => True
  | m :: moves => ¬s.StartRaises m ∧ (s.perform m).state.NoStartRaises moves

instance decidableNoStartRaises : (s : Session) → (moves : List Move) →
    Decidable (s.NoStartRaises moves)
  | _, [] => .isTrue trivial
  | s, m :: moves =>
    have := decidableNoStartRaises (s.perform m).state moves
    inferInstanceAs (Decidable (¬s.StartRaises m ∧ (s.perform m).state.NoStartRaises moves))

/-- The run lemma for histories in which no start is stopped by a fault. -/
theorem after_induction_of_noStartRaises {P : Session → Prop}
    (step : ∀ s m, ¬s.StartRaises m → P s → P (s.perform m).state) {s : Session} (h : P s)
    {moves : List Move} (ok : s.NoStartRaises moves) : P (s.after moves) := by
  induction moves generalizing s with
  | nil => exact h
  | cons m moves ih => exact ih (step s m ok.1 h) ok.2

/-! ## Frames, stage by stage -/

theorem update_of_stage_error {s : Session} {seconds : Float} {fault : Fault}
    (h : (s.runStage seconds).result = .error fault) :
    (s.update seconds).result = .error fault ∧
      (s.update seconds).state = (s.runStage seconds).state := by
  obtain ⟨result, state⟩ := Attempt.andThen_of_error (fun s () => s.runQueue) h
  obtain ⟨result', state'⟩ := Attempt.andThen_of_error (fun s () => .done s.drain.2 s.drain.1) result
  exact ⟨result', state'.trans state⟩

theorem update_of_queue_error {s : Session} {seconds : Float} {fault : Fault}
    (ran : (s.runStage seconds).result = .ok ())
    (h : (s.runStage seconds).state.runQueue.result = .error fault) :
    (s.update seconds).result = .error fault ∧
      (s.update seconds).state = (s.runStage seconds).state.runQueue.state := by
  obtain ⟨result, state⟩ := Attempt.andThen_of_ok (fun s () => s.runQueue) ran
  obtain ⟨result', state'⟩ := Attempt.andThen_of_error (fun s () => .done s.drain.2 s.drain.1)
    (result.trans h)
  exact ⟨result', state'.trans state⟩

theorem update_of_ok {s : Session} {seconds : Float} (ran : (s.runStage seconds).result = .ok ())
    (worked : (s.runStage seconds).state.runQueue.result = .ok ()) :
    (s.update seconds).Gives (s.runStage seconds).state.runQueue.state.outbox
      (s.runStage seconds).state.runQueue.state.drain.2 := by
  obtain ⟨result, state⟩ := Attempt.andThen_of_ok (fun s () => s.runQueue) ran
  obtain ⟨result', state'⟩ := Attempt.andThen_of_ok (fun s () => .done s.drain.2 s.drain.1)
    (result.trans worked)
  rw [state] at result' state'
  exact ⟨result', state'⟩

/-- A property that does not look at the queue, the outbox or the controls and is kept by the run
stage and by every command that a move comes to is kept by the move. -/
theorem perform_induction {P : Session → Prop} {s : Session} {m : Move}
    (loose : ∀ t queue outbox controls, P t →
      P { t with queue, outbox, phases := { t.phases with controls } })
    (ran : ∀ seconds, P (s.runStage seconds).state)
    (step : ∀ t item, (t, item) ∈ s.dealt m → P t → P (t.dispatch item).state) (h : P s) :
    P (s.perform m).state := by
  cases m with
  | submit item => exact loose s (s.queue ++ [item]) s.outbox s.phases.controls h
  | dispatch item =>
    rw [(perform_dispatch s item).1]
    exact step s item List.mem_cons_self h
  | drain => exact loose s s.queue [] s.phases.controls h
  | setControls controls => exact loose s s.queue s.outbox controls h
  | update seconds =>
    show P (s.update seconds).state
    cases result : (s.runStage seconds).result with
    | error fault =>
      rw [(update_of_stage_error result).2]
      exact ran seconds
    | ok answer =>
      simp only [dealt, result] at step
      have worked := runQueue_induction
        (fun t rest => loose t rest t.outbox t.phases.controls) step (ran seconds)
      cases queue : (s.runStage seconds).state.runQueue.result with
      | error fault =>
        rw [(update_of_queue_error result queue).2]
        exact worked
      | ok answer =>
        rw [(update_of_ok result queue).state]
        exact loose _ _ [] _ worked

end RobotWorkshop.Session
