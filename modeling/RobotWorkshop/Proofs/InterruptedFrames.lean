import RobotWorkshop.Proofs.CommandStage
import RobotWorkshop.Proofs.Conversion
import RobotWorkshop.Proofs.ScriptSteps

/-!
What a frame leaves behind that is stopped by a fault.  In its run stage it is stopped only by a
time that cannot be converted or is negative, before anything has changed
(`Session.Steady.runStage_raises_iff`).  In its command stage, if the clocks of all runs can be
made, it is stopped by a value that is no command, or by a command that is not answered
(`Session.Stops`).  Then the run stage and the commands before the value have been carried out, in
`u`, and what stood behind it is still queued, in front of what was queued on the way:

    s.queue                   =  before ++ value :: rest
    (s.update seconds).state  =  { u with queue := rest ++ u.queue }

The next frame of no length goes on from there just as if the value had never been queued
(`Session.Interrupted`), and so do the next ones if there are more such values
(`Session.Steady.update_resumes`).  A level may hold a gear whose pickup is not answered; this is the
only other thing that stops the stage.
-/

namespace RobotWorkshop

/-! ## Attempts that come to the same -/

namespace Attempt

variable {σ α β : Type}

/-- The attempts come to the same answer or fault, and leave the same state behind. -/
structure Agrees (a b : Attempt σ α) : Prop where
  result : a.result = b.result
  state : a.state = b.state

variable {a b c : Attempt σ α}

theorem Agrees.symm (h : a.Agrees b) : b.Agrees a := ⟨h.result.symm, h.state.symm⟩

theorem Agrees.trans (h : a.Agrees b) (k : b.Agrees c) : a.Agrees c :=
  ⟨h.result.trans k.result, h.state.trans k.state⟩

theorem agrees_after (a : Attempt σ α) (journal : List Entry) : (a.after journal).Agrees a :=
  ⟨rfl, rfl⟩

theorem Agrees.andThen (h : a.Agrees b) (next : σ → α → Attempt σ β) :
    (a.andThen next).Agrees (b.andThen next) := by
  obtain ⟨result, state, journal⟩ := a
  obtain ⟨result', state', journal'⟩ := b
  obtain ⟨rfl, rfl⟩ := h
  cases result <;> exact ⟨rfl, rfl⟩

theorem Agrees.gives (h : a.Agrees b) {v : α} {s : σ} (gives : b.Gives v s) : a.Gives v s :=
  ⟨h.result.trans gives.result, h.state.trans gives.state⟩

theorem Gives.andThen_agrees {first : Attempt σ α} {v : α} {s : σ} (h : first.Gives v s)
    (next : σ → α → Attempt σ β) : (first.andThen next).Agrees (next s v) := by
  obtain ⟨result, state⟩ := andThen_of_ok next h.result
  rw [h.state] at result state
  exact ⟨result, state⟩

theorem result_of_not_raises {a : Attempt σ Unit} (h : ¬a.Raises) : a.result = .ok () := by
  cases result : a.result with
  | error fault => exact absurd ⟨fault, result⟩ h
  | ok answer => rfl

end Attempt

namespace Session

variable {s t u v : Session} {seconds : Float} {items q : List Submission}

/-! ## The run stage -/

/-- The run stage raises only in a run, and only for such times. -/
theorem Steady.runStage_raises_iff (steady : s.Steady) (seconds : Float) :
    (s.runStage seconds).Raises ↔ s.phases.phase = .running ∧
      (seconds.isNaN = true ∨ seconds.isInf = true ∨ (seconds * 1e9).isInf = true ∨
        ∃ dt, Nanos.ofSeconds? seconds = .ok dt ∧ dt < 0) := by
  rcases steady with rest | ⟨ticks, bomb, run⟩
  · rw [runStage_of_buying rest.buying]
    constructor
    · rintro ⟨fault, failed⟩
      cases failed
    · rintro ⟨running, -⟩
      have buying := rest.buying
      simp [Session.running, PhaseMachine.running, running] at buying
  · have running : s.phases.phase = .running := by
      simpa [Session.running, PhaseMachine.running] using run.running
    rcases ofSeconds?_nonneg_or seconds with ⟨dt, nanos, nonneg⟩ | bad
    · have went := (run.runStage_gives nanos nonneg).result
      refine iff_of_false ?_ ?_
      · rintro ⟨fault, failed⟩
        cases went.symm.trans failed
      rintro ⟨-, undefined | infinite | large | ⟨dt', nanos', negative⟩⟩
      · obtain ⟨fault, failed⟩ := (Nanos.ofSeconds?_raises_iff seconds).mpr (.inl undefined)
        cases nanos.symm.trans failed
      · obtain ⟨fault, failed⟩ := (Nanos.ofSeconds?_raises_iff seconds).mpr (.inr (.inl infinite))
        cases nanos.symm.trans failed
      · obtain ⟨fault, failed⟩ := (Nanos.ofSeconds?_raises_iff seconds).mpr (.inr (.inr large))
        cases nanos.symm.trans failed
      · obtain rfl := Except.ok.inj (nanos.symm.trans nanos')
        omega
    · obtain ⟨-, fault, failed, -⟩ := run.runStage_fails bad
      refine iff_of_true ⟨fault, failed⟩ ⟨running, ?_⟩
      cases nanos : Nanos.ofSeconds? seconds with
      | ok dt => exact .inr (.inr (.inr ⟨dt, rfl, bad dt nanos⟩))
      | error fault =>
        rcases (Nanos.ofSeconds?_raises_iff seconds).mp ⟨fault, nanos⟩ with
          undefined | infinite | large
        · exact .inl undefined
        · exact .inr (.inl infinite)
        · exact .inr (.inr (.inl large))

/-- Then nothing has changed. -/
theorem Steady.runStage_unchanged (steady : s.Steady) (raises : (s.runStage seconds).Raises) :
    (s.runStage seconds).state = s := by
  rcases steady with rest | ⟨ticks, bomb, run⟩
  · rw [runStage_of_buying rest.buying]
    rfl
  · refine (run.runStage_fails fun dt nanos => ?_).1
    by_contra nonneg
    obtain ⟨fault, failed⟩ := raises
    cases (run.runStage_gives nanos (by omega)).result.symm.trans failed

theorem preceded_unqueued (s : Session) (q : List Submission) :
    { s with queue := [] }.preceded q [] = { s with queue := q } := by
  show { s with queue := q ++ [] } = _
  rw [List.append_nil]

/-- What the run stage makes of a session, whatever is queued.  That stays in front of what it
queues. -/
structure Staged (s : Session) (seconds : Float) (r : Session) : Prop where
  gives : ∀ q, ({ s with queue := q }.runStage seconds).Gives () (r.preceded q [])
  steady : r.Steady
  finds : ∃ found, r.queue = pickUps found ∧
    (s.level.Answerable → r.level.Answerable ∧ ∀ amount ∈ found, Answerable amount)
  outbox : s.outbox <+: r.outbox

/-- A run stage that is not stopped makes the same of a session whatever is queued. -/
theorem Steady.staged (steady : s.Steady) (ran : (s.runStage seconds).result = .ok ()) :
    s.Staged seconds ({ s with queue := [] }.runStage seconds).state := by
  have same : ∀ q, { s with queue := q }.runStage seconds =
      ({ s with queue := [] }.runStage seconds).within (·.preceded q []) := by
    intro q
    rw [← runStage_preceded, preceded_unqueued]
  have unqueued : ({ s with queue := [] }.runStage seconds).result = .ok () := by
    rw [show s = { s with queue := s.queue } from rfl, same] at ran
    exact ran
  have steady' : { s with queue := [] }.Steady := steady.congr rfl rfl rfl rfl rfl
  obtain ⟨news, turn⟩ := Possible.runStage_turn (.inl steady') seconds
  refine ⟨fun q => ?_, (steady'.runStage seconds).1, turn.finds, ⟨news, turn.outbox.symm⟩⟩
  rw [same q]
  exact ⟨unqueued, rfl⟩

/-- The starts that a frame comes to are those of its command stage. -/
theorem Staged.starts {r : Session} (h : s.Staged seconds r)
    (unraised : ¬{ s with queue := q }.StartRaises (.update seconds)) :
    ∀ given ∈ (r.preceded q []).handled, given.2 = .command .startRun →
      ¬(given.1.dispatch given.2).Raises := by
  intro given mem start failed
  refine unraised ⟨given, ?_, start, failed⟩
  simp only [dealt, (h.gives q).result, (h.gives q).state]
  exact mem

/-! ## The command stage -/

/-- The command stage of a frame, and its end. -/
def commandStage (s : Session) : Attempt Session (List Event) :=
  s.runQueue.andThen fun t () => .done t.drain.2 t.drain.1

theorem update_agrees (ran : (s.runStage seconds).Gives () t) :
    (s.update seconds).Agrees t.commandStage :=
  (ran.andThen_agrees fun t () => t.runQueue).andThen _

/-- A frame of no length is a command stage. -/
theorem Steady.update_zero (steady : s.Steady) : (s.update 0.0).Agrees s.commandStage :=
  update_agrees steady.runStage_zero

theorem commandStage_gives (worked : s.runQueue.Gives () v) :
    s.commandStage.Gives v.outbox v.drain.2 :=
  worked.andThen (Attempt.gives_done _ _ _)

theorem commandStage_of_error {fault : Fault} (failed : s.runQueue.result = .error fault) :
    s.commandStage.result = .error fault ∧ s.commandStage.state = s.runQueue.state :=
  Attempt.andThen_of_error _ failed

/-! ## Values that stop it -/

/-- Values that stop the command stage where they stand, and have no other effect. -/
inductive Stops (s : Session) : Submission → Fault → Prop where
  | unknown (shown : String) : Stops s (.unknown shown) (.unhandledCommand shown)
  | unanswered {c : Command} (unanswered : ¬s.Answers c) : Stops s (.command c) .numberTooLong

theorem Stops.dispatch {fault : Fault} (h : s.Stops item fault) :
    (s.dispatch item).result = .error fault ∧ (s.dispatch item).state = s := by
  cases h with
  | unknown shown => exact ⟨rfl, rfl⟩
  | unanswered unanswered => exact dispatch_of_unanswered unanswered

/-- Whether a value stops the stage. -/
def halts (s : Session) (item : Submission) : Bool :=
  match (s.dispatch item).result with
  | .error (.unhandledCommand _) | .error .numberTooLong => true
  | _ => false

/-- What is stopped is stopped by such a value, or is a start. -/
theorem stops_or_start {fault : Fault} (failed : (s.dispatch item).result = .error fault) :
    s.Stops item fault ∨ item = .command .startRun := by
  rcases dispatch_raises failed with ⟨shown, rfl, rfl⟩ | ⟨c, rfl, unanswered, rfl⟩ | start
  · exact .inl (.unknown shown)
  · exact .inl (.unanswered unanswered)
  · exact .inr start

theorem halts_iff (s : Session) (item : Submission) :
    s.halts item = true ↔ ∃ fault, s.Stops item fault := by
  constructor
  · intro halted
    cases item with
    | unknown shown => exact ⟨_, .unknown shown⟩
    | command c =>
      refine ⟨_, .unanswered fun answered => ?_⟩
      unfold halts at halted
      rcases s.dispatch_answer c with
        ⟨result, -⟩ | ⟨result, -⟩ | ⟨result, -⟩ | ⟨-, fault, result, rfl | rfl | rfl⟩
      · rw [result] at halted; cases halted
      · exact (s.answers_iff c).mp answered result
      all_goals rw [result] at halted; cases halted
  · rintro ⟨fault, stops⟩
    unfold halts
    rw [stops.dispatch.1]
    cases stops <;> rfl

/-- The values of a queue that are left if those that stop the stage are passed over. -/
def passing (s : Session) : List Submission → List Submission
  | [] => []
  | item :: items =>
    if s.halts item then s.passing items else item :: (s.dispatch item).state.passing items

theorem passing_length_le (s : Session) (q : List Submission) : (s.passing q).length ≤ q.length := by
  induction q generalizing s with
  | nil => exact Nat.le_refl 0
  | cons item q ih =>
    rw [passing]
    split
    · exact Nat.le_succ_of_le (ih s)
    · exact Nat.succ_le_succ (ih _)

/-! ## Commands, one after the other -/

/-- Commands that are dispatched one after the other. -/
def dispatchAll (s : Session) : List Submission → Attempt Session Unit
  | [] => .done s ()
  | item :: items => (s.dispatch item).andThen fun t _ => t.dispatchAll items

theorem runQueue_preceded_cons (s : Session) (item : Submission) (q : List Submission) :
    let first := s.dispatch item
    (s.preceded (item :: q) []).runQueue =
      match first.result with
      | .error fault => .failed (first.state.preceded q []) fault first.journal
      | .ok _ => (first.state.preceded q []).runQueue.after first.journal := by
  have queue : (s.preceded (item :: q) []).queue = item :: (q ++ s.queue) := rfl
  rw [runQueue_of_cons queue]
  dsimp only
  rw [show { s.preceded (item :: q) [] with queue := q ++ s.queue } = s.preceded q [] from rfl,
    dispatch_preceded]
  rfl

theorem handled_preceded_cons (s : Session) (item : Submission) (q : List Submission) :
    (s.preceded (item :: q) []).handled =
      (s.preceded q [], item) ::
        match (s.dispatch item).result with
        | .error _ => []
        | .ok _ => ((s.dispatch item).state.preceded q []).handled := by
  have queue : (s.preceded (item :: q) []).queue = item :: (q ++ s.queue) := rfl
  rw [handled_of_cons queue]
  dsimp only
  rw [show { s.preceded (item :: q) [] with queue := q ++ s.queue } = s.preceded q [] from rfl,
    dispatch_preceded]
  rfl

/-- No start that working off this queue comes to is stopped by a fault. -/
def StartsFine (s : Session) : Prop :=
  ∀ given ∈ s.handled, given.2 = .command .startRun → ¬(given.1.dispatch given.2).Raises

/-- The first value of such a queue is carried out or refused, or it stops the stage. -/
theorem StartsFine.cons (fine : (s.preceded (item :: q) []).StartsFine) :
    (∃ fault, s.Stops item fault) ∨
      ∃ answer u, (s.dispatch item).Gives answer u ∧ (u.preceded q []).StartsFine := by
  unfold StartsFine at fine
  rw [handled_preceded_cons] at fine
  cases result : (s.dispatch item).result with
  | ok answer =>
    simp only [result] at fine
    exact .inr ⟨answer, _, ⟨result, rfl⟩, (List.forall_mem_cons.mp fine).2⟩
  | error fault =>
    refine .inl ⟨fault, (stops_or_start result).resolve_right fun start => ?_⟩
    refine fine _ List.mem_cons_self start ⟨fault, ?_⟩
    rw [dispatch_preceded]
    exact result

/-- A value that stops the stage is used up, and what stands behind it stays queued. -/
theorem Stops.runQueue {fault : Fault} (h : s.Stops item fault) (q : List Submission) :
    (s.preceded (item :: q) []).runQueue.result = .error fault ∧
      (s.preceded (item :: q) []).runQueue.state = s.preceded q [] := by
  obtain ⟨result, state⟩ := h.dispatch
  rw [runQueue_preceded_cons, result, state]
  exact ⟨rfl, rfl⟩

/-- After a value that is dealt with the stage goes on with the others. -/
theorem runQueue_of_gives {answer : Bool} (given : (s.dispatch item).Gives answer u)
    (q : List Submission) :
    (s.preceded (item :: q) []).runQueue.Agrees (u.preceded q []).runQueue := by
  rw [runQueue_preceded_cons, given.result, given.state]
  exact Attempt.agrees_after _ _

/-- **Run lemma.**  To work off a queue is to dispatch its first commands, and then to work off the
rest in front of what has been queued meanwhile. -/
theorem runQueue_of_dispatchAll (done : (s.dispatchAll items).Gives () u) (q : List Submission) :
    (s.preceded (items ++ q) []).runQueue.Agrees (u.preceded q []).runQueue := by
  induction items generalizing s with
  | nil =>
    obtain rfl : s = u := done.state
    exact ⟨rfl, rfl⟩
  | cons item items ih =>
    obtain ⟨answer, t, first, others⟩ := done.of_andThen
    exact (runQueue_of_gives first (items ++ q)).trans (ih others)

/-- **A queue** is dispatched to its end, or up to a value that stops the stage. -/
theorem StartsFine.dispatchAll (fine : (s.preceded q []).StartsFine) :
    (∃ u, (s.dispatchAll q).Gives () u) ∨
      ∃ before value rest u fault, q = before ++ value :: rest ∧ (s.dispatchAll before).Gives () u ∧
        u.Stops value fault := by
  induction q generalizing s with
  | nil => exact .inl ⟨s, Attempt.gives_done _ _ _⟩
  | cons item q ih =>
    rcases fine.cons with ⟨fault, stops⟩ | ⟨answer, t, first, others⟩
    · exact .inr ⟨[], item, q, s, fault, rfl, Attempt.gives_done _ _ _, stops⟩
    · rcases ih others with ⟨u, done⟩ | ⟨before, value, rest, u, fault, rfl, done, stops⟩
      · exact .inl ⟨u, first.andThen done⟩
      · exact .inr ⟨item :: before, value, rest, u, fault, rfl, first.andThen done, stops⟩

theorem commands_of_dispatchAll (done : (s.dispatchAll items).Gives () u) :
    ∀ item ∈ items, ∃ c, item = .command c := by
  induction items generalizing s with
  | nil => exact fun item mem => nomatch mem
  | cons item items ih =>
    obtain ⟨answer, t, first, others⟩ := done.of_andThen
    refine List.forall_mem_cons.mpr ⟨?_, ih others⟩
    cases item with
    | command c => exact ⟨c, rfl⟩
    | unknown shown => cases first.result

theorem dispatchAll_adds (done : (s.dispatchAll items).Gives () u) :
    (∃ found, u.queue = s.queue ++ pickUps found ∧
      (s.level.Answerable → u.level.Answerable ∧ ∀ amount ∈ found, Answerable amount)) ∧
      s.outbox <+: u.outbox := by
  induction items generalizing s with
  | nil =>
    obtain rfl : s = u := done.state
    exact ⟨⟨[], (List.append_nil _).symm, fun answerable => ⟨answerable, by simp⟩⟩, List.prefix_rfl⟩
  | cons item items ih =>
    obtain ⟨answer, t, first, others⟩ := done.of_andThen
    obtain ⟨⟨later, queue, each⟩, told⟩ := ih others
    obtain ⟨news, turn⟩ := s.dispatch_turn item
    rw [first.state] at turn
    obtain ⟨found, queued, each'⟩ := turn.finds
    refine ⟨⟨found ++ later, ?_, fun answerable => ?_⟩,
      List.IsPrefix.trans ⟨news, turn.outbox.symm⟩ told⟩
    · rw [queue, queued, List.append_assoc, pickUps_append]
    · obtain ⟨level, first⟩ := each' answerable
      obtain ⟨level, second⟩ := each level
      exact ⟨level, List.forall_mem_append.mpr ⟨first, second⟩⟩

theorem Steady.dispatch_gives {answer : Bool} (steady : s.Steady)
    (given : (s.dispatch item).Gives answer u) : u.Steady := by
  rcases steady.dispatch item with kept | ⟨-, ⟨fault, failed⟩, -⟩
  · exact given.state ▸ kept
  · cases given.result.symm.trans failed

theorem Steady.dispatchAll (steady : s.Steady) (done : (s.dispatchAll items).Gives () u) :
    u.Steady := by
  induction items generalizing s with
  | nil => exact done.state ▸ steady
  | cons item items ih =>
    obtain ⟨answer, t, first, others⟩ := done.of_andThen
    exact ih (steady.dispatch_gives first) others

/-- A frame whose commands are all dispatched is stopped only by a gear that it has found. -/
theorem Staged.dispatched {r : Session} (h : s.Staged seconds r)
    (done : (r.dispatchAll q).Gives () u) :
    (∃ events, ({ s with queue := q }.update seconds).result = .ok events) ∨
      (({ s with queue := q }.update seconds).result = .error .numberTooLong ∧
        ¬s.level.Answerable) := by
  obtain ⟨found, found_queue, each⟩ := h.finds
  obtain ⟨⟨later, queue, each'⟩, -⟩ := dispatchAll_adds done
  rw [found_queue, ← pickUps_append] at queue
  have worked := (update_agrees (h.gives q)).trans
    ((List.append_nil q ▸ runQueue_of_dispatchAll done []).andThen _)
  have left : (u.preceded [] []).queue = pickUps (found ++ later) := queue
  by_cases answerable : ∀ amount ∈ found ++ later, Answerable amount
  · exact .inl ⟨_, (worked.gives (commandStage_gives (runQueue_pickUps left answerable))).result⟩
  · refine .inr ⟨?_, fun level => answerable ?_⟩
    · push Not at answerable
      exact worked.result.trans (commandStage_of_error (runQueue_pickUps_fails left answerable)).1
    · obtain ⟨level, first⟩ := each level
      exact List.forall_mem_append.mpr ⟨first, (each' level).2⟩

/-! ## A frame that is interrupted -/

/-- A frame is interrupted by a value in the queue. -/
structure Interrupted (s : Session) (seconds : Float) (before : List Submission) (value : Submission)
    (rest : List Submission) : Prop where
  queue : s.queue = before ++ value :: rest
  commands : ∀ item ∈ before, ∃ c, item = .command c
  /-- The run stage and the commands before the value have been carried out, and what they tell is
  in the outbox; only pickups have been queued, behind the rest.  The value is no command, or one
  that is not answered then. -/
  left : ∃ u fault,
    (({ s with queue := [] }.runStage seconds).andThen fun t () => t.dispatchAll before).Gives () u ∧
    (∃ found, u.queue = pickUps found) ∧ s.outbox <+: u.outbox ∧ u.Stops value fault ∧
    (s.update seconds).result = .error fault ∧
    (s.update seconds).state = { u with queue := rest ++ u.queue }
  /-- It goes on as if the value had never been queued. -/
  resumed : ((s.update seconds).state.update 0.0).Agrees
    ({ s with queue := before ++ rest }.update seconds)

/-- **A frame whose command stage raises**, though no start in it does, is interrupted so, or
stopped by a gear that it has found. -/
theorem Steady.interrupted (steady : s.Steady) (ran : (s.runStage seconds).result = .ok ())
    (unraised : ¬s.StartRaises (.update seconds)) (raises : (s.update seconds).Raises) :
    (∃ before value rest, s.Interrupted seconds before value rest) ∨
      ((s.update seconds).result = .error .numberTooLong ∧ ¬s.level.Answerable) := by
  have staged := steady.staged ran
  generalize ({ s with queue := [] }.runStage seconds).state = r at staged
  have stage : (s.runStage seconds).Gives () (r.preceded s.queue []) := staged.gives s.queue
  have fine : (r.preceded s.queue []).StartsFine := staged.starts (q := s.queue) unraised
  obtain ⟨found, found_queue, -⟩ := staged.finds
  rcases fine.dispatchAll with ⟨u, done⟩ | ⟨before, value, rest, u, fault, split, done, stops⟩
  · refine .inr ((staged.dispatched done).resolve_left fun ⟨events, went⟩ => ?_)
    obtain ⟨fault, failed⟩ := raises
    cases failed.symm.trans went
  · left
    obtain ⟨⟨later, queue, -⟩, told⟩ := dispatchAll_adds done
    have stopped := runQueue_of_dispatchAll done (value :: rest)
    obtain ⟨result, state⟩ := stops.runQueue rest
    obtain ⟨result', state'⟩ := commandStage_of_error (stopped.result.trans result)
    rw [split] at stage
    obtain ⟨failed, left⟩ := update_agrees stage
    replace left : (s.update seconds).state = u.preceded rest [] :=
      left.trans (state'.trans (stopped.state.trans state))
    have unqueued : ({ s with queue := [] }.runStage seconds).Gives () r := staged.gives []
    refine ⟨before, value, rest, split, commands_of_dispatchAll done,
      ⟨u, fault, unqueued.andThen done, ⟨found ++ later, ?_⟩, staged.outbox.trans told, stops,
        failed.trans result', left⟩, ?_⟩
    · rw [queue, found_queue, pickUps_append]
    · have at_rest : (u.preceded rest []).Steady :=
        (staged.steady.dispatchAll done).congr rfl rfl rfl rfl rfl
      rw [left]
      refine at_rest.update_zero.trans (Attempt.Agrees.symm ?_)
      exact (update_agrees (staged.gives (before ++ rest))).trans
        ((runQueue_of_dispatchAll done rest).andThen _)

/-! ## Frames that go on -/

/-- Updates that come to the same can be exchanged. -/
theorem after_update_congr {seconds' : Float} (same : (s.update seconds).Agrees (t.update seconds'))
    (moves : List Move) :
    s.after (.update seconds :: moves) = t.after (.update seconds' :: moves) ∧
      s.emitted (.update seconds :: moves) = t.emitted (.update seconds' :: moves) := by
  show (s.update seconds).state.after moves = (t.update seconds').state.after moves ∧
    (s.update seconds).result.toOption.getD [] ++ (s.update seconds).state.emitted moves =
      (t.update seconds').result.toOption.getD [] ++ (t.update seconds').state.emitted moves
  rw [same.result, same.state]
  exact ⟨rfl, rfl⟩

/-- As many frames of no length as there are values in a queue that stop the stage, and one more. -/
def resumption (s : Session) (q : List Submission) : List Move :=
  List.replicate (q.length - (s.passing q).length + 1) (.update 0.0)

/-- They do what one command stage does without these values. -/
structure Resumes (s : Session) (q : List Submission) : Prop where
  after : (s.preceded q []).after (s.resumption q) =
    (s.preceded (s.passing q) []).commandStage.state
  emitted : (s.preceded q []).emitted (s.resumption q) =
    (s.preceded (s.passing q) []).commandStage.result.toOption.getD []

theorem Steady.preceded_update_zero (steady : s.Steady) (q : List Submission) :
    ((s.preceded q []).update 0.0).Agrees (s.preceded q []).commandStage :=
  Steady.update_zero (steady.congr rfl rfl rfl rfl rfl)

/-- With nothing in the queue, the one frame is the command stage. -/
theorem Steady.resumes_nil (steady : s.Steady) : s.Resumes [] := by
  obtain ⟨result, state⟩ := steady.preceded_update_zero []
  refine ⟨state, ?_⟩
  show ((s.preceded [] []).update 0.0).result.toOption.getD [] ++ [] = _
  rw [result, List.append_nil]
  rfl

/-- A frame is spent on a value that stops the stage. -/
theorem Steady.resumes_of_halts (steady : s.Steady) (halts : s.halts item = true)
    (others : s.Resumes q) : s.Resumes (item :: q) := by
  have passed : s.passing (item :: q) = s.passing q := by rw [passing, if_pos halts]
  have fewer := s.passing_length_le q
  have frames : s.resumption (item :: q) = .update 0.0 :: s.resumption q := by
    have count : q.length + 1 - (s.passing q).length = q.length - (s.passing q).length + 1 := by
      omega
    rw [resumption, passed, List.length_cons, count, List.replicate_succ, resumption]
  obtain ⟨fault, stops⟩ := (s.halts_iff item).mp halts
  obtain ⟨result, state⟩ := stops.runQueue q
  obtain ⟨failed, left⟩ := steady.preceded_update_zero (item :: q)
  obtain ⟨failed', left'⟩ := commandStage_of_error result
  have left : ((s.preceded (item :: q) []).update 0.0).state = s.preceded q [] :=
    left.trans (left'.trans state)
  refine ⟨?_, ?_⟩
  · rw [frames, passed, ← others.after, ← left]
    rfl
  · rw [frames, passed, ← others.emitted, ← left]
    show (Session.update _ 0.0).result.toOption.getD [] ++ _ = _
    rw [failed.trans failed']
    rfl

/-- One that is dispatched costs no frame. -/
theorem Steady.resumes_of_given {answer : Bool} (steady : s.Steady) (goes : ¬s.halts item = true)
    (given : (s.dispatch item).Gives answer u) (others : u.Resumes q) :
    s.Resumes (item :: q) := by
  have kept : s.passing (item :: q) = item :: u.passing q := by
    rw [passing, if_neg goes, given.state]
  have frames : s.resumption (item :: q) = u.resumption q := by
    rw [resumption, kept, List.length_cons, List.length_cons, Nat.add_sub_add_right, resumption]
  have same (q : List Submission) :
      (s.preceded (item :: q) []).commandStage.Agrees (u.preceded q []).commandStage :=
    (runQueue_of_gives given q).andThen _
  obtain ⟨after, emitted⟩ := after_update_congr
    ((steady.preceded_update_zero (item :: q)).trans
      ((same q).trans ((steady.dispatch_gives given).preceded_update_zero q).symm))
    (List.replicate (q.length - (u.passing q).length) (.update 0.0))
  refine ⟨?_, ?_⟩
  · rw [frames, kept, (same _).state]
    exact after.trans others.after
  · rw [frames, kept, (same _).result]
    exact emitted.trans others.emitted

/-- **Run lemma.**  The frames work the queue off, if what is left without the values that stop the
stage starts no run that a fault stops. -/
theorem Steady.resumes (steady : s.Steady) (fine : (s.preceded (s.passing q) []).StartsFine) :
    s.Resumes q := by
  induction q generalizing s with
  | nil => exact steady.resumes_nil
  | cons item q ih =>
    rw [passing] at fine
    by_cases halts : s.halts item = true
    · rw [if_pos halts] at fine
      exact steady.resumes_of_halts halts (ih steady fine)
    · rw [if_neg halts] at fine
      rcases fine.cons with stops | ⟨answer, u, given, others⟩
      · exact absurd ((s.halts_iff item).mpr stops) halts
      · rw [given.state] at others
        exact steady.resumes_of_given halts given (ih (steady.dispatch_gives given) others)

/-- Without the values that stop the stage, all are dispatched. -/
theorem StartsFine.dispatchAll_passing (fine : (s.preceded (s.passing q) []).StartsFine) :
    ∃ u, (s.dispatchAll (s.passing q)).Gives () u := by
  induction q generalizing s with
  | nil => exact ⟨s, Attempt.gives_done _ _ _⟩
  | cons item q ih =>
    rw [passing] at fine ⊢
    split
    · rename_i halts
      rw [if_pos halts] at fine
      exact ih fine
    · rename_i goes
      rw [if_neg goes] at fine
      rcases fine.cons with stops | ⟨answer, t, given, others⟩
      · exact absurd ((s.halts_iff item).mpr stops) goes
      · rw [given.state] at others ⊢
        obtain ⟨u, done⟩ := ih others
        exact ⟨u, given.andThen done⟩

/-- A frame, and more of no length, work off what the same frame would without the values that stop
its command stage. -/
theorem Steady.update_resumes (steady : s.Steady) (ran : (s.runStage seconds).result = .ok ()) :
    let kept := ({ s with queue := [] }.runStage seconds).state.passing s.queue
    let moves := .update seconds :: List.replicate (s.queue.length - kept.length) (.update 0.0)
    ¬{ s with queue := kept }.StartRaises (.update seconds) →
    (s.after moves = ({ s with queue := kept }.update seconds).state ∧
      s.emitted moves = ({ s with queue := kept }.update seconds).result.toOption.getD []) ∧
    ((∃ events, ({ s with queue := kept }.update seconds).result = .ok events) ∨
      (({ s with queue := kept }.update seconds).result = .error .numberTooLong ∧
        ¬s.level.Answerable)) := by
  have staged := steady.staged ran
  generalize ({ s with queue := [] }.runStage seconds).state = r at staged
  intro kept moves unraised
  have stage : (s.runStage seconds).Gives () (r.preceded s.queue []) := staged.gives s.queue
  have fine : (r.preceded kept []).StartsFine := staged.starts unraised
  obtain ⟨after, emitted⟩ := staged.steady.resumes fine
  have clean := update_agrees (staged.gives kept)
  -- the first frame does what one of no length does after its run stage
  have at_work : (r.preceded s.queue []).Steady := staged.steady.congr rfl rfl rfl rfl rfl
  obtain ⟨after', emitted'⟩ := after_update_congr
    ((update_agrees stage).trans at_work.update_zero.symm)
    (List.replicate (s.queue.length - kept.length) (.update 0.0))
  obtain ⟨u, done⟩ := fine.dispatchAll_passing
  refine ⟨⟨after'.trans (after.trans clean.state.symm), ?_⟩, staged.dispatched done⟩
  rw [clean.result]
  exact emitted'.trans emitted

/-- **What a frame leaves behind that a fault stops.**  After a history in which no start is stopped
by a fault, with anything in the queue: the run stage raises only in a run, and only for a time that
is undefined, infinite or too large to be converted, or negative, and then the session stays as it
was.  If the command stage raises, though no start in it does, the frame is interrupted by the first
value that is no command or not answered, and goes on in a frame of no length as if that had never
been queued.  As many such frames as there are such values make of the queue what the frame would
have made without them.  Only on a level with a gear that is neither credited nor refused in words, of
which accepted settings have none, can the stage be stopped by this instead. -/
theorem frames_stopped {holdings : Holdings} {level : Level} {moves : List Move}
    (ok : (Session.new holdings level).NoStartRaises moves) (queue : List Submission)
    (seconds : Float) :
    let s := { (Session.new holdings level).after moves with queue }
    let kept := ({ s with queue := [] }.runStage seconds).state.passing queue
    let clean := { s with queue := kept }
    let frames := .update seconds :: List.replicate (queue.length - kept.length) (.update 0.0)
    ((s.runStage seconds).Raises ↔ s.phases.phase = .running ∧
      (seconds.isNaN = true ∨ seconds.isInf = true ∨ (seconds * 1e9).isInf = true ∨
        ∃ dt, Nanos.ofSeconds? seconds = .ok dt ∧ dt < 0)) ∧
    (∀ fault, (s.runStage seconds).result = .error fault →
      (s.update seconds).result = .error fault ∧ (s.update seconds).state = s) ∧
    (¬(s.runStage seconds).Raises → ¬s.StartRaises (.update seconds) → (s.update seconds).Raises →
      (∃ before value rest, s.Interrupted seconds before value rest) ∨
        ((s.update seconds).result = .error .numberTooLong ∧ ¬level.Answerable)) ∧
    (¬(s.runStage seconds).Raises → ¬clean.StartRaises (.update seconds) →
      (s.after frames = (clean.update seconds).state ∧
        s.emitted frames = (clean.update seconds).result.toOption.getD []) ∧
      ((∃ events, (clean.update seconds).result = .ok events) ∨
        ((clean.update seconds).result = .error .numberTooLong ∧ ¬level.Answerable))) := by
  intro s kept clean frames
  have steady : s.Steady := (after_steady ok).congr rfl rfl rfl rfl rfl
  have answerable (h : level.Answerable) : s.level.Answerable := after_answerable h moves
  refine ⟨steady.runStage_raises_iff seconds, ?_, ?_, ?_⟩
  · intro fault failed
    obtain ⟨result, state⟩ := update_of_stage_error failed
    exact ⟨result, state.trans (steady.runStage_unchanged ⟨fault, failed⟩)⟩
  · intro ran unraised raises
    exact (steady.interrupted (Attempt.result_of_not_raises ran) unraised raises).imp_right
      (And.imp_right (mt answerable))
  · intro ran unraised
    exact (steady.update_resumes (Attempt.result_of_not_raises ran) unraised).imp_right
      (Or.imp_right (And.imp_right (mt answerable)))

/-- In a run, with two values in the queue that stop the stage, of which one is no command and one a
pickup of a debt of 4301 digits: an undefined time changes nothing; a frame is interrupted by the
first of them, with its own tick's pickup still queued, and two more of no length bring the run to
its end and credit the pickup. -/
theorem frames_stopped_two_values :
    let moves : List Move := [.dispatch (.command .startRun), .drain]
    let queue : List Submission := [.command (.pickUp 2), .unknown "None", .command .resetToBuying,
      .command (.pickUp (-Nat.pow 10 mostWrittenDigits)), .command (.pickUp 1)]
    let s := { (Session.new .twoSteps { layout := [(⟨2, 0⟩, 5)] }).after moves with queue }
    let frames : List Move := [.update 0.15, .update 0.0, .update 0.0]
    (Session.new .twoSteps { layout := [(⟨2, 0⟩, 5)] }).NoStartRaises moves ∧
      (s.update undefinedFloat).state = s ∧
      (∃ before value rest, s.Interrupted 0.15 before value rest) ∧
      (s.after frames).queue = [] ∧
      (s.after frames).holdings.wallet.balance = 8 := by
  intro moves queue s frames
  have ok : (Session.new .twoSteps { layout := [(⟨2, 0⟩, 5)] }).NoStartRaises moves := by
    decide +kernel
  obtain ⟨-, undefined, -, -⟩ := frames_stopped ok queue undefinedFloat
  obtain ⟨-, -, interrupted, resumed⟩ := frames_stopped ok queue 0.15
  have running : (s.runStage undefinedFloat).result = .error .undefinedTime := by decide +kernel
  have ran : ¬(s.runStage 0.15).Raises := by decide +kernel
  have unraised : ¬s.StartRaises (.update 0.15) := by decide +kernel
  have raises : (s.update 0.15).Raises := by decide +kernel
  let level : Level := { layout := [(⟨2, 0⟩, 5)] }
  have positive : ∀ gear ∈ level.gears ++ level.layout, 0 < gear.2 := by decide
  have fair : level.Answerable := fun gear mem => .inl (positive gear mem)
  have kept : ({ s with queue := [] }.runStage 0.15).state.passing queue =
      [.command (.pickUp 2), .command .resetToBuying, .command (.pickUp 1)] := by
    decide +kernel
  rw [kept] at resumed
  obtain ⟨⟨same, -⟩, -⟩ := resumed ran (by decide +kernel)
  have same : s.after frames = _ := same
  refine ⟨ok, (undefined _ running).2,
    (interrupted ran unraised raises).resolve_right fun stopped => stopped.2 fair, ?_, ?_⟩
  · rw [same]
    decide +kernel
  · rw [same]
    decide +kernel

end Session

end RobotWorkshop
