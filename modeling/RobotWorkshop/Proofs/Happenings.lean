import RobotWorkshop.Proofs.Outbox

/-!
What happens to a session, one thing at a time.  A frame is its run stage, then the commands of the
queue one by one, and at its end the outbox is handed over; every other move is one happening.  A
moment is a happening with the session that it befalls.

    s.after moves = s.through (s.happenings moves)                        (Session.after_eq_through)
    s.stream moves = s.outbox ++ (s.trace (s.happenings moves)).flatMap news        (stream_eq_news)

What is said of every list of happenings is said of every point of every history, also in the middle
of a frame.
-/

namespace RobotWorkshop

/-- The command that is carried out, by the answer to what was submitted. -/
def Submission.carriedOut : Submission → Except Fault Bool → Option Command
  | .command c, .ok true => some c
  | _, _ => none

namespace Session

/-- A thing that can happen to a session. -/
inductive Happening where
  | submit (item : Submission)
  /-- The run stage of a frame. -/
  | pass (seconds : Float)
  /-- The first command of the queue is taken from it. -/
  | take
  | dispatch (item : Submission)
  | drain
  | setControls (controls : Controls)

/-- What a happening brings about.  The answer tells whether a command was carried out. -/
def befall (s : Session) : Happening → Attempt Session Bool
  | .submit item => .done (s.submit item) false
  | .pass seconds => (s.runStage seconds).andThen fun s () => .done s false
  | .take =>
    match s.queue with
    | [] => .done s false
    | item :: rest => { s with queue := rest }.dispatch item
  | .dispatch item => s.dispatch item
  | .drain => .done s.drain.2 false
  | .setControls controls => .done { s with phases := { s.phases with controls } } false

theorem befall_take {s : Session} {item : Submission} {rest : List Submission}
    (h : s.queue = item :: rest) : s.befall .take = { s with queue := rest }.dispatch item := by
  simp only [befall, h]

theorem befall_pass (s : Session) (seconds : Float) :
    (s.befall (.pass seconds)).state = (s.runStage seconds).state := by
  show ((s.runStage seconds).andThen fun s () => .done s false).state = _
  cases result : (s.runStage seconds).result with
  | error fault => exact (Attempt.andThen_of_error _ result).2
  | ok answer => exact (Attempt.andThen_of_ok _ result).2

/-! ## Moments -/

/-- A happening and the session that it befalls. -/
structure Moment where
  before : Session
  happening : Happening

namespace Moment

variable (m : Moment)

def attempt : Attempt Session Bool := m.before.befall m.happening

def after : Session := m.attempt.state

/-- The command that is dealt with. -/
def given : Option Submission :=
  match m.happening with
  | .take => m.before.queue.head?
  | .dispatch item => some item
  | _ => none

/-- The command that is carried out. -/
def carriedOut : Option Command := m.given.bind (·.carriedOut m.attempt.result)

/-- What is added to the outbox. -/
def news : List Event := m.after.outbox.drop m.before.outbox.length

end Moment

/-! ## One after the other -/

/-- The session after some happenings. -/
def through (s : Session) : List Happening → Session
  | [] => s
  | h :: hs => (s.befall h).state.through hs

/-- The moments of some happenings. -/
def trace (s : Session) : List Happening → List Moment
  | [] => []
  | h :: hs => ⟨s, h⟩ :: (s.befall h).state.trace hs

theorem through_append (s : Session) (hs more : List Happening) :
    s.through (hs ++ more) = (s.through hs).through more := by
  induction hs generalizing s with
  | nil => rfl
  | cons h hs ih => exact ih _

theorem trace_append (s : Session) (hs more : List Happening) :
    s.trace (hs ++ more) = s.trace hs ++ (s.through hs).trace more := by
  induction hs generalizing s with
  | nil => rfl
  | cons h hs ih => exact congrArg (Moment.mk s h :: ·) (ih _)

/-- **Run lemma.**  What holds at first, of no moments, and is kept by each happening holds at any
time of the moments so far. -/
theorem trace_induction {P : List Moment → Session → Prop} {s : Session} (start : P [] s)
    (step : ∀ ms t h, P ms t → P (ms ++ [⟨t, h⟩]) (t.befall h).state) (hs : List Happening) :
    P (s.trace hs) (s.through hs) := by
  induction hs using List.reverseRecOn with
  | nil => exact start
  | append_singleton hs h ih =>
    rw [trace_append, through_append]
    exact step _ _ h ih

/-! ## The happenings of moves -/

/-- The happenings that make up a move. -/
def happeningsOf (s : Session) : Move → List Happening
  | .submit item => [.submit item]
  | .dispatch item => [.dispatch item]
  | .update seconds =>
    .pass seconds :: match (s.runStage seconds).result with
      | .error _ => []
      | .ok () =>
        let t := (s.runStage seconds).state
        List.replicate t.handled.length .take ++ match t.runQueue.result with
          | .error _ => []
          | .ok () => [.drain]
  | .drain => [.drain]
  | .setControls controls => [.setControls controls]

def happenings (s : Session) : List Move → List Happening
  | [] => []
  | m :: moves => s.happeningsOf m ++ (s.perform m).state.happenings moves

/-- Working off the queue is taking its commands one by one. -/
theorem runQueue_through (s : Session) :
    s.runQueue.state = s.through (List.replicate s.handled.length .take) := by
  induction s using queue_induction with
  | nil s queue =>
    rw [runQueue_of_nil queue, handled_of_nil queue]
    rfl
  | cons s item rest queue ih =>
    rw [runQueue_of_cons queue, handled_of_cons queue]
    dsimp only
    rw [List.length_cons, List.replicate_succ, through, befall_take queue]
    cases result : ({ s with queue := rest }.dispatch item).result with
    | error fault => rfl
    | ok answer => exact ih

theorem perform_eq_through (s : Session) (m : Move) :
    (s.perform m).state = s.through (s.happeningsOf m) := by
  cases m with
  | dispatch item => exact (perform_dispatch s item).1
  | update seconds =>
    show (s.update seconds).state = _
    cases ran : (s.runStage seconds).result with
    | error fault =>
      simp only [happeningsOf, ran, through]
      rw [(update_of_stage_error ran).2, befall_pass]
    | ok answer =>
      cases worked : (s.runStage seconds).state.runQueue.result with
      | error fault =>
        simp only [happeningsOf, ran, worked, through, List.append_nil]
        rw [(update_of_queue_error ran worked).2, befall_pass, runQueue_through]
      | ok answer =>
        simp only [happeningsOf, ran, worked, through]
        rw [(update_of_ok ran worked).state, befall_pass, through_append, ← runQueue_through]
        rfl
  | _ => rfl

theorem after_eq_through (s : Session) (moves : List Move) :
    s.after moves = s.through (s.happenings moves) := by
  induction moves generalizing s with
  | nil => rfl
  | cons m moves ih =>
    rw [happenings, through_append, ← perform_eq_through]
    exact ih _

/-! ## What is told -/

theorem befall_behind (s : Session) (o : List Event) {h : Happening} (undrained : h ≠ .drain) :
    (s.behind o).befall h = (s.befall h).within (·.behind o) := by
  cases h with
  | submit item => rfl
  | pass seconds =>
    show ((s.behind o).runStage seconds).andThen (fun t () => .done t false) =
      ((s.runStage seconds).andThen fun t () => .done t false).within _
    rw [runStage_behind]
    exact Attempt.within_andThen fun _ _ => rfl
  | take =>
    cases queue : s.queue with
    | nil => simp only [befall, queue, show (s.behind o).queue = s.queue from rfl]; rfl
    | cons item rest =>
      rw [befall_take queue, befall_take (s := s.behind o) queue]
      exact dispatch_behind { s with queue := rest } o item
  | dispatch item => exact s.dispatch_behind o item
  | drain => exact absurd rfl undrained
  | setControls controls => rfl

/-- News are added at the end of the outbox, unless it is handed over. -/
theorem Moment.after_outbox {m : Moment} (undrained : m.happening ≠ .drain) :
    m.after.outbox = m.before.outbox ++ m.news := by
  have same := befall_behind m.before.drain.2 m.before.outbox undrained
  rw [drained_behind] at same
  have told : m.after.outbox = m.before.outbox ++ (m.before.drain.2.befall m.happening).state.outbox :=
    congrArg (·.state.outbox) same
  rw [news, told, List.drop_left]

theorem Moment.news_of_drain {m : Moment} (drained : m.happening = .drain) : m.news = [] := by
  have empty : m.after.outbox = [] := by
    rw [after, attempt, drained]
    rfl
  rw [news, empty, List.drop_nil]

theorem through_outbox (s : Session) (hs : List Happening) (undrained : .drain ∉ hs) :
    (s.through hs).outbox = s.outbox ++ (s.trace hs).flatMap Moment.news := by
  induction hs generalizing s with
  | nil => exact (List.append_nil _).symm
  | cons h hs ih =>
    have first := Moment.after_outbox (m := ⟨s, h⟩) (fun eq => undrained (eq ▸ List.mem_cons_self))
    rw [through, trace, ih _ fun mem => undrained (List.mem_cons_of_mem _ mem), List.flatMap_cons,
      ← List.append_assoc, ← first]
    rfl

/-- A move hands over what was in the outbox and what is told meanwhile, or leaves it there. -/
theorem perform_told (s : Session) (m : Move) :
    (s.perform m).result.toOption.getD [] ++ (s.perform m).state.outbox =
      s.outbox ++ (s.trace (s.happeningsOf m)).flatMap Moment.news := by
  cases m with
  | submit item => exact s.through_outbox [.submit item] (by simp)
  | dispatch item =>
    rw [perform_dispatch_silent, (perform_dispatch s item).1]
    exact s.through_outbox [.dispatch item] (by simp)
  | drain =>
    show s.outbox ++ [] = s.outbox ++ (Moment.news ⟨s, .drain⟩ ++ [])
    rw [Moment.news_of_drain rfl]
    rfl
  | setControls controls => exact s.through_outbox [.setControls controls] (by simp)
  | update seconds =>
    cases ran : (s.runStage seconds).result with
    | error fault =>
      obtain ⟨result, state⟩ := update_of_stage_error ran
      have passed := s.through_outbox [.pass seconds] (by simp)
      simp only [perform, result, state, happeningsOf, ran]
      rw [← befall_pass]
      exact passed
    | ok answer =>
      let takes := List.replicate (s.runStage seconds).state.handled.length Happening.take
      have worked_off :
          s.through (.pass seconds :: takes) = (s.runStage seconds).state.runQueue.state := by
        rw [runQueue_through, through, befall_pass]
      have told := s.through_outbox (.pass seconds :: takes) (by simp [takes])
      rw [worked_off] at told
      cases worked : (s.runStage seconds).state.runQueue.result with
      | error fault =>
        obtain ⟨result, state⟩ := update_of_queue_error ran worked
        simp only [perform, result, state, happeningsOf, ran, worked, List.append_nil]
        exact told
      | ok answer =>
        obtain ⟨result, state⟩ := update_of_ok ran worked
        simp only [perform, result, state, happeningsOf, ran, worked]
        rw [← List.cons_append, trace_append, List.flatMap_append, ← List.append_assoc, ← told]
        show _ ++ [] = _ ++ (Moment.news ⟨_, .drain⟩ ++ [])
        rw [Moment.news_of_drain rfl]
        rfl

/-- **All that is told** along some moves is what is told in their moments, in order. -/
theorem stream_eq_news (s : Session) (moves : List Move) :
    s.stream moves = s.outbox ++ (s.trace (s.happenings moves)).flatMap Moment.news := by
  induction moves generalizing s with
  | nil => exact (List.append_nil _).symm
  | cons m moves ih =>
    rw [stream_cons, ih, happenings, trace_append, List.flatMap_append, ← List.append_assoc,
      perform_told, ← perform_eq_through, List.append_assoc]

end Session

end RobotWorkshop
