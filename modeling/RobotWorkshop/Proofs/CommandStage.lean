import RobotWorkshop.Proofs.Conservation
import RobotWorkshop.Proofs.Refusals

/-!
The command stage of a frame.  A command that starts a run may queue a pickup, so the queue can grow
while it is worked off.  A pickup queues nothing, so it ends all the same, after at most

    (the commands in the queue) + (the starts among them)           (Session.handled_length_le)

commands.  What is dealt with is, in this order, what was in the queue and what is queued on the
way, up to what a fault leaves in the queue (`Session.handled_kept`).  A start that a fault stops, a
value that is no command and a command that is not answered are all that can stop the stage
(`Session.dispatch_raises`).  So without the first two either each command of the queue and each
pickup is dealt with in the same frame, or the stage breaks off at the first that is not answered
(`Session.worked_off_iff_answered`).
-/

namespace RobotWorkshop.Session

variable {s : Session} {item : Submission}

/-! ## One command -/

/-- What dealing with a command adds to the queue. -/
def queuedBy (given : Session × Submission) : List Submission :=
  (given.1.dispatch given.2).state.queue.drop given.1.queue.length

/-- At most a pickup is added, and only by the start of a run. -/
theorem queuedBy_cases (given : Session × Submission) :
    queuedBy given = [] ∨
      given.2 = .command .startRun ∧ ∃ n, queuedBy given = [.command (.pickUp n)] := by
  unfold queuedBy
  rcases dispatch_queue given.1 given.2 with unchanged | ⟨start, n, more⟩
  · rw [unchanged]
    exact .inl (List.drop_length)
  · rw [more, List.drop_left]
    refine .inr ⟨?_, n, rfl⟩
    unfold Submission.isStart at start
    split at start
    · assumption
    · cases start

theorem dispatch_queue_eq (s : Session) (item : Submission) :
    (s.dispatch item).state.queue = s.queue ++ queuedBy (s, item) := by
  unfold queuedBy
  rcases dispatch_queue s item with unchanged | ⟨-, n, more⟩
  · rw [unchanged, List.drop_length, List.append_nil]
  · rw [more, List.drop_left]

/-- A fault stops a value that is no command, or a command that is not answered, or the start of a
run. -/
theorem dispatch_raises {fault : Fault} (failed : (s.dispatch item).result = .error fault) :
    (∃ shown, item = .unknown shown ∧ fault = .unhandledCommand shown) ∨
      (∃ c, item = .command c ∧ ¬s.Answers c ∧ fault = .numberTooLong) ∨
      item = .command .startRun := by
  cases item with
  | unknown shown => exact .inl ⟨shown, rfl, (Except.error.inj failed).symm⟩
  | command c =>
    right
    rcases s.dispatch_answer c with
      ⟨result, -⟩ | ⟨result, -⟩ | ⟨result, -⟩ | ⟨⟨rfl, -⟩, -⟩
    · cases result.symm.trans failed
    · refine .inl ⟨c, rfl, ?_, (Except.error.inj (result.symm.trans failed)).symm⟩
      exact fun answered => (s.answers_iff c).mp answered result
    · cases result.symm.trans failed
    · exact .inr rfl

/-- A command that is not answered changes nothing. -/
theorem dispatch_of_unanswered {c : Command} (unanswered : ¬s.Answers c) :
    (s.dispatch (.command c)).result = .error .numberTooLong ∧
      (s.dispatch (.command c)).state = s := by
  have result : (s.dispatch (.command c)).result = .error .numberTooLong := by
    rw [answers_iff, not_not] at unanswered
    exact unanswered
  refine ⟨result, ?_⟩
  rcases s.dispatch_answer c with
    ⟨other, -⟩ | ⟨-, state⟩ | ⟨other, -⟩ | ⟨-, fault, other, rfl | rfl | rfl⟩
  · cases result.symm.trans other
  · exact state
  all_goals cases result.symm.trans other

/-! ## The queue -/

/-- **Termination.**  Working off a queue comes to no more commands than it has, and one more for
each start among them. -/
theorem handled_length_le (s : Session) : s.handled.length ≤ workload s.queue := by
  induction s using queue_induction with
  | nil s queue =>
    rw [handled_of_nil queue]
    exact Nat.zero_le _
  | cons s item rest queue ih =>
    have smaller := workload_dispatch s item rest
    rw [handled_of_cons queue, queue]
    dsimp only
    cases ({ s with queue := rest }.dispatch item).result with
    | error fault => exact Nat.succ_le_of_lt (Nat.zero_lt_of_lt smaller)
    | ok answer => exact Nat.lt_of_le_of_lt ih smaller

/-- **First in, first out.**  What was in the queue and what is queued on the way is dealt with in
that order, or still there. -/
theorem handled_kept (s : Session) :
    s.queue ++ s.handled.flatMap queuedBy = s.handled.map (·.2) ++ s.runQueue.state.queue := by
  induction s using queue_induction with
  | nil s queue =>
    rw [runQueue_of_nil queue, handled_of_nil queue]
    exact List.append_nil s.queue
  | cons s item rest queue ih =>
    have first := dispatch_queue_eq { s with queue := rest } item
    rw [runQueue_of_cons queue, handled_of_cons queue, queue]
    dsimp only
    cases ({ s with queue := rest }.dispatch item).result with
    | error fault =>
      show item :: rest ++ (queuedBy _ ++ []) =
        item :: ({ s with queue := rest }.dispatch item).state.queue
      rw [first, List.append_nil]
      rfl
    | ok answer =>
      rw [first, List.append_assoc] at ih
      exact congrArg (item :: ·) ih

/-- What is dealt with was in the queue, or is a pickup. -/
theorem mem_handled {given : Session × Submission} (mem : given ∈ s.handled) :
    given.2 ∈ s.queue ∨ ∃ n, given.2 = .command (.pickUp n) := by
  have among : given.2 ∈ s.handled.map (·.2) ++ s.runQueue.state.queue :=
    List.mem_append_left _ (List.mem_map_of_mem mem)
  rw [← handled_kept] at among
  refine (List.mem_append.mp among).imp_right fun queued => ?_
  obtain ⟨other, -, mem'⟩ := List.mem_flatMap.mp queued
  rcases queuedBy_cases other with nothing | ⟨-, n, pickup⟩
  · rw [nothing] at mem'
    cases mem'
  · rw [pickup] at mem'
    exact ⟨n, List.mem_singleton.mp mem'⟩

/-- What is carried out or refused is answered. -/
theorem answers_of_not_raises {given : Session × Submission} {c : Command}
    (command : given.2 = .command c) (fine : ¬(given.1.dispatch given.2).Raises) :
    given.1.Answers c := by
  rw [answers_iff, ← command]
  exact fun long => fine ⟨_, long⟩

/-- After the first command it goes on with the session that this leaves behind. -/
theorem handled_head {given : Session × Submission} {rest : List (Session × Submission)}
    (worked : s.runQueue.result = .ok ()) (split : s.handled = given :: rest) :
    (given.1.dispatch given.2).state.handled = rest ∧
      (given.1.dispatch given.2).state.runQueue.result = .ok () := by
  cases queue : s.queue with
  | nil => rw [handled_of_nil queue] at split; cases split
  | cons item queued =>
    rw [handled_of_cons queue] at split
    rw [runQueue_of_cons queue] at worked
    dsimp only at split worked
    obtain ⟨rfl, others⟩ := List.cons.inj split
    cases result : ({ s with queue := queued }.dispatch item).result with
    | error fault => rw [result] at worked; cases worked
    | ok answer =>
      rw [result] at worked others
      exact ⟨others, worked⟩

/-- So it does after any of them. -/
theorem handled_split {before rest : List (Session × Submission)} {given : Session × Submission}
    (worked : s.runQueue.result = .ok ()) (split : s.handled = before ++ given :: rest) :
    (given.1.dispatch given.2).state.handled = rest ∧
      (given.1.dispatch given.2).state.runQueue.result = .ok () := by
  induction before generalizing s with
  | nil => exact handled_head worked split
  | cons first before ih =>
    obtain ⟨others, worked'⟩ := handled_head worked split
    exact ih worked' others

/-! ## The stage -/

/-- The queue is worked off. -/
structure WorkedOff (s : Session) : Prop where
  /-- No fault stops it. -/
  ends : s.runQueue.result = .ok ()
  empty : s.runQueue.state.queue = []
  /-- It is worked off by taking the commands that are dealt with from the front of the queue. -/
  one_by_one : s.runQueue.state = s.through (List.replicate s.handled.length .take)
  bounded : s.handled.length ≤ s.queue.length + s.queue.countP Submission.isStart
  /-- What was in the queue is dealt with first, each command once. -/
  in_order : s.handled.map (·.2) = s.queue ++ s.handled.flatMap queuedBy
  /-- Behind each command comes what was still in the queue, and then what it has queued itself. -/
  behind : ∀ before given rest, s.handled = before ++ given :: rest →
    rest.map (·.2) = given.1.queue ++ queuedBy given ++ rest.flatMap queuedBy
  only_starts : ∀ given ∈ s.handled, queuedBy given = [] ∨
    given.2 = .command .startRun ∧ ∃ n, queuedBy given = [.command (.pickUp n)]

theorem handled_in_order (worked : s.runQueue.result = .ok ()) :
    s.handled.map (·.2) = s.queue ++ s.handled.flatMap queuedBy := by
  rw [handled_kept, runQueue_queue worked, List.append_nil]

theorem workedOff (worked : s.runQueue.result = .ok ()) : s.WorkedOff where
  ends := worked
  empty := runQueue_queue worked
  one_by_one := s.runQueue_through
  bounded := s.handled_length_le
  in_order := handled_in_order worked
  behind := by
    intro before given rest split
    obtain ⟨others, worked'⟩ := handled_split worked split
    have order := handled_in_order worked'
    rwa [others, dispatch_queue_eq] at order
  only_starts given _ := queuedBy_cases given

/-- The queue is worked off up to a command that is not answered. -/
structure BrokenOff (s : Session) (before : List (Session × Submission)) (given : Session)
    (c : Command) : Prop where
  stops : s.runQueue.result = .error .numberTooLong
  last : s.handled = before ++ [(given, .command c)]
  answered : ∀ other ∈ before, ∀ c, other.2 = .command c → other.1.Answers c
  unanswered : ¬given.Answers c
  /-- The command is gone, and nothing else has changed. -/
  left : s.runQueue.state = given
  bounded : s.handled.length ≤ s.queue.length + s.queue.countP Submission.isStart
  in_order : s.queue ++ s.handled.flatMap queuedBy = s.handled.map (·.2) ++ given.queue

/-- What stops the work on a queue of commands, if no start in it does, is one that is not
answered. -/
theorem brokenOff {fault : Fault} (commands : ∀ item ∈ s.queue, ∃ c, item = .command c)
    (starts : ∀ given ∈ s.handled, given.2 = .command .startRun →
      ¬(given.1.dispatch given.2).Raises)
    (failed : s.runQueue.result = .error fault) : ∃ before given c, s.BrokenOff before given c := by
  obtain ⟨before, ⟨given, item⟩, last, stopped, state, others⟩ := runQueue_stops failed
  have mem : (given, item) ∈ s.handled :=
    last ▸ List.mem_append_right before (List.mem_singleton.mpr rfl)
  rcases dispatch_raises stopped with ⟨shown, rfl, -⟩ | ⟨c, rfl, unanswered, rfl⟩ | rfl
  · rcases mem_handled mem with queued | ⟨n, pickup⟩
    · obtain ⟨c, command⟩ := commands _ queued
      cases command
    · cases pickup
  · have left := state.trans (dispatch_of_unanswered unanswered).2
    refine ⟨before, given, c, failed, last, fun other mem' c' command => ?_, unanswered, left,
      s.handled_length_le, ?_⟩
    · exact answers_of_not_raises command (others other mem')
    · rw [handled_kept, left]
  · exact absurd ⟨fault, stopped⟩ (starts _ mem rfl)

/-- Working off commands ends well just if each of them is answered, and breaks off at the first
that is not. -/
theorem workedOff_or_brokenOff (commands : ∀ item ∈ s.queue, ∃ c, item = .command c)
    (starts : ∀ given ∈ s.handled, given.2 = .command .startRun →
      ¬(given.1.dispatch given.2).Raises) :
    (s.WorkedOff ↔ ∀ given ∈ s.handled, ∀ c, given.2 = .command c → given.1.Answers c) ∧
      (s.WorkedOff ∨ ∃ before given c, s.BrokenOff before given c) := by
  have off_or_broken : s.WorkedOff ∨ ∃ before given c, s.BrokenOff before given c := by
    cases worked : s.runQueue.result with
    | ok answer => exact .inl (workedOff worked)
    | error fault => exact .inr (brokenOff commands starts worked)
  refine ⟨⟨fun off given mem c command => ?_, fun answered => ?_⟩, off_or_broken⟩
  · exact answers_of_not_raises command (handled_of_runQueue_ok off.ends given mem)
  · refine off_or_broken.resolve_right fun ⟨before, given, c, broken⟩ => broken.unanswered ?_
    refine answered (given, .command c) ?_ c rfl
    exact broken.last ▸ List.mem_append_right before (List.mem_singleton.mpr rfl)

/-- **The command stage works its queue off**, just if each command that it comes to is answered.
At any point of any history, with any commands queued: if the frame comes to its command stage and
no fault stops a start in it, then it deals with at most one command for each that is queued and one
more for each start among them, with those that were queued and the pickups of the frame's ticks
first, once each and in order, and with each pickup of a start behind what was queued before it; and
it leaves the queue empty.  If a command is not answered, the stage is broken off there: the command
is gone and what was behind it stays queued. -/
theorem worked_off_iff_answered (holdings : Holdings) (level : Level) (moves : List Move)
    (queue : List Submission) (seconds : Float)
    (commands : ∀ item ∈ queue, ∃ c, item = .command c) :
    let s := { (Session.new holdings level).after moves with queue }
    let t := (s.runStage seconds).state
    (s.runStage seconds).result = .ok () → ¬s.StartRaises (.update seconds) →
      (∃ found, t.queue = queue ++ pickUps found) ∧
      (t.WorkedOff ↔ ∀ given ∈ t.handled, ∀ c, given.2 = .command c → given.1.Answers c) ∧
      (t.WorkedOff → (s.update seconds).Gives t.runQueue.state.outbox t.runQueue.state.drain.2 ∧
        (s.update seconds).state.queue = []) ∧
      (¬t.WorkedOff → ∃ before given c, t.BrokenOff before given c ∧
        (s.update seconds).result = .error .numberTooLong ∧ (s.update seconds).state = given) := by
  intro s t ran unraised
  have possible : s.Possible := (after_possible holdings level moves).congr rfl rfl rfl rfl rfl
  obtain ⟨told, turn⟩ := possible.runStage_turn seconds
  obtain ⟨found, queued⟩ := turn.queue
  have starts : ∀ given ∈ t.handled, given.2 = .command .startRun →
      ¬(given.1.dispatch given.2).Raises := by
    intro given mem start raises
    refine unraised ⟨given, ?_, start, raises⟩
    simp only [dealt, ran]
    exact mem
  have all_commands : ∀ item ∈ t.queue, ∃ c, item = .command c := by
    intro item mem
    rw [show t.queue = queue ++ pickUps found from queued] at mem
    rcases List.mem_append.mp mem with before | pickup
    · exact commands item before
    · obtain ⟨amount, -, rfl⟩ := List.mem_map.mp pickup
      exact ⟨_, rfl⟩
  obtain ⟨exactly, off_or_broken⟩ := workedOff_or_brokenOff all_commands starts
  refine ⟨⟨found, queued⟩, exactly, fun off => ?_, fun stays => ?_⟩
  · have gives := update_of_ok ran off.ends
    exact ⟨gives, update_queue gives.result⟩
  · obtain ⟨before, given, c, broken⟩ := off_or_broken.resolve_left stays
    obtain ⟨result, state⟩ := update_of_queue_error ran broken.stops
    exact ⟨before, given, c, broken, result, state.trans broken.left⟩

/-- Two starts with a reset between them, each of which finds a gear: the six commands that can be
dealt with are, and both gears are credited after all that was queued. -/
theorem worked_off_two_starts :
    let queue : List Submission :=
      [.command .startRun, .command .resetToBuying, .command .startRun, .command (.pickUp 2)]
    let s := { (Session.new .twoSteps { layout := [(⟨1, 0⟩, 5)] }).after [.drain] with queue }
    s.handled.map (·.2) = queue ++ [.command (.pickUp 5), .command (.pickUp 5)] ∧
      s.handled.length = queue.length + queue.countP Submission.isStart ∧
      (s.update 0.15).state.queue = [] := by
  intro queue s
  have commands : ∀ item ∈ queue, ∃ c, item = .command c := by
    intro item mem
    simp only [queue, List.mem_cons, List.not_mem_nil, or_false] at mem
    rcases mem with rfl | rfl | rfl | rfl <;> exact ⟨_, rfl⟩
  have ran : (s.runStage 0.15).result = .ok () := by decide +kernel
  have unraised : ¬s.StartRaises (.update 0.15) := by decide +kernel
  have fine : ∀ given ∈ (s.runStage 0.15).state.handled,
      (given.1.dispatch given.2).result ≠ .error .numberTooLong := by
    decide +kernel
  obtain ⟨-, exactly, empties, -⟩ := worked_off_iff_answered .twoSteps
    { layout := [(⟨1, 0⟩, 5)] } [.drain] queue 0.15 commands ran unraised
  refine ⟨by decide +kernel, by decide +kernel,
    (empties (exactly.mpr fun given mem c command => ?_)).2⟩
  rw [answers_iff, ← command]
  exact fine given mem

/-- A pickup of a debt of 4301 digits is queued in front of another.  The stage is stopped there,
and the other stays queued. -/
theorem debt_not_worked_off :
    let debt : Int := -Nat.pow 10 mostWrittenDigits
    let queue : List Submission := [.command (.pickUp debt), .command (.pickUp 1)]
    let s := { Session.new .twoSteps {} with queue }
    (s.runStage 0.0).result = .ok () ∧ ¬s.StartRaises (.update 0.0) ∧
      ¬(s.runStage 0.0).state.WorkedOff ∧
      (s.update 0.0).result = .error .numberTooLong ∧
      (s.update 0.0).state.queue = [.command (.pickUp 1)] := by
  intro debt queue s
  have stopped : (s.runStage 0.0).state.runQueue.result = .error .numberTooLong := by decide +kernel
  refine ⟨by decide +kernel, by decide +kernel, fun off => ?_, by decide +kernel, by decide +kernel⟩
  cases off.ends.symm.trans stopped

end RobotWorkshop.Session
