import RobotWorkshop.Proofs.History
import RobotWorkshop.Proofs.RunStart

/-!
The run-state invariant.  A session is at rest between runs (`Resting`) or in a run whose counters
and clocks agree (`InRun`); a start that a fault stops leaves it in a run without a bomb
(`Stranded`), and nothing else does.

    every move keeps `Steady`, unless a start in it is stopped by a fault      (perform_steady)
    hence it holds after every history without such a start                   (run_state_invariant)
-/

namespace RobotWorkshop

namespace Session

/-- Between runs: there are no clocks, and the counter is at the start. -/
structure Resting (s : Session) : Prop where
  buying : s.running = false
  idle : s.interpreter = .idle

/-- Between runs or in one. -/
def Steady (s : Session) : Prop := s.Resting ∨ ∃ ticks bomb, s.InRun ticks bomb

/-- In a run without a bomb. -/
structure Stranded (s : Session) : Prop where
  running : s.running = true
  no_bomb : s.interpreter.clocks.bomb? = none

/-! ## What the invariant does not look at -/

theorem InRun.congr {s t : Session} {ticks bomb : Timer} (h : s.InRun ticks bomb)
    (running : t.running = s.running) (interpreter : t.interpreter = s.interpreter)
    (counted : t.ticks = s.ticks) (elapsed : t.runElapsed = s.runElapsed)
    (length : t.holdings.program.length = s.holdings.program.length) : t.InRun ticks bomb where
  running := running.trans h.running
  clocks := interpreter ▸ h.clocks
  ticks_running := h.ticks_running
  ticks_repeating := h.ticks_repeating
  bomb_running := h.bomb_running
  bomb_once := h.bomb_once
  pc_pos := interpreter ▸ h.pc_pos
  pc_le := by rw [interpreter, length]; exact h.pc_le
  pc_eq_ticks := by rw [interpreter, counted]; exact h.pc_eq_ticks
  pc_eq := interpreter ▸ h.pc_eq
  elapsed_eq := elapsed.trans h.elapsed_eq
  bomb_elapsed := h.bomb_elapsed.trans elapsed.symm
  elapsed_nonneg := h.elapsed_nonneg
  elapsed_lt := h.elapsed_lt
  bomb_lt := h.bomb_lt

theorem Steady.congr {s t : Session} (h : s.Steady) (running : t.running = s.running)
    (interpreter : t.interpreter = s.interpreter) (counted : t.ticks = s.ticks)
    (elapsed : t.runElapsed = s.runElapsed)
    (length : t.holdings.program.length = s.holdings.program.length) : t.Steady := by
  rcases h with rest | ⟨ticks, bomb, run⟩
  · exact .inl ⟨running.trans rest.buying, interpreter.trans rest.idle⟩
  · exact .inr ⟨ticks, bomb, run.congr running interpreter counted elapsed length⟩

theorem Steady.resting {s : Session} (h : s.Steady) (buying : s.running = false) : s.Resting := by
  rcases h with rest | ⟨ticks, bomb, run⟩
  · exact rest
  · exact absurd (buying.symm.trans run.running) (by simp)

theorem Steady.inRun {s : Session} (h : s.Steady) (running : s.running = true) :
    ∃ ticks bomb, s.InRun ticks bomb := by
  rcases h with rest | run
  · exact absurd (running.symm.trans rest.buying) (by simp)
  · exact run

/-! ## The run stage -/

theorem ended_resting (s : Session) (outcome : Outcome) (time : Int) :
    (s.ended outcome time).Resting :=
  ⟨rfl, rfl⟩

theorem InRun.runUntil_steady {s : Session} {ticks bomb : Timer} (h : s.InRun ticks bomb) {t : Int}
    (later : s.runElapsed ≤ t) : (s.runUntil ticks bomb t).Steady := by
  rcases s.runUntil_cases ticks bomb t with
    ⟨before_end, before_bomb⟩ | ⟨at_end, before_bomb⟩ | ⟨at_bomb, not_through⟩
  · rw [runUntil_of_lt before_end before_bomb]
    exact .inr ⟨_, _, h.goneOn_inRun later before_end before_bomb⟩
  · rw [runUntil_of_through at_end before_bomb]
    exact .inl (ended_resting _ _ _)
  · rw [runUntil_of_bomb at_bomb not_through]
    exact .inl (ended_resting _ _ _)

theorem runStage_of_buying {s : Session} (buying : s.running = false) (seconds : Float) :
    s.runStage seconds = .done s () := by
  unfold runStage
  rw [if_neg (by simp [buying])]

/-- The run stage of a run in a frame of `dt` nanoseconds. -/
theorem InRun.runStage_gives {s : Session} {ticks bomb : Timer} (h : s.InRun ticks bomb)
    {seconds : Float} {dt : Int} (nanos : Nanos.ofSeconds? seconds = .ok dt) (dt_nonneg : 0 ≤ dt) :
    (s.runStage seconds).Gives () (s.runUntil ticks bomb (s.runElapsed + dt)) := by
  unfold runStage
  rw [if_pos h.running, nanos]
  exact h.advance_gives dt_nonneg

/-- A time that cannot be converted, or a negative one, stops the run stage; nothing changes. -/
theorem InRun.runStage_fails {s : Session} {ticks bomb : Timer} (h : s.InRun ticks bomb)
    {seconds : Float} (bad : ∀ dt, Nanos.ofSeconds? seconds = .ok dt → dt < 0) :
    (s.runStage seconds).state = s ∧
      ∃ fault, (s.runStage seconds).result = .error fault ∧
        (Nanos.ofSeconds? seconds = .error fault ∨
          (∃ dt, Nanos.ofSeconds? seconds = .ok dt) ∧ fault = .negativeDelta) := by
  unfold runStage
  rw [if_pos h.running]
  cases nanos : Nanos.ofSeconds? seconds with
  | error fault => exact ⟨rfl, fault, rfl, .inl rfl⟩
  | ok dt =>
    have refused : bomb.tick dt none = .error .negativeDelta := if_pos (bad dt nanos)
    simp only [advance, advanceUpTo, h.clocks, refused]
    exact ⟨rfl, _, rfl, .inr ⟨⟨dt, rfl⟩, rfl⟩⟩

/-- A frame has a length, or none that could pass. -/
theorem ofSeconds?_nonneg_or (seconds : Float) :
    (∃ dt, Nanos.ofSeconds? seconds = .ok dt ∧ 0 ≤ dt) ∨
      ∀ dt, Nanos.ofSeconds? seconds = .ok dt → dt < 0 := by
  by_cases good : ∃ dt, Nanos.ofSeconds? seconds = .ok dt ∧ 0 ≤ dt
  · exact .inl good
  · exact .inr fun dt nanos => not_le.mp fun nonneg => good ⟨dt, nanos, nonneg⟩

/-- The run stage keeps the invariant, whatever the time; only the time can stop it. -/
theorem Steady.runStage {s : Session} (h : s.Steady) (seconds : Float) :
    (s.runStage seconds).state.Steady ∧
      ∀ fault, (s.runStage seconds).result = .error fault →
        fault.OfTime ∨ fault = .negativeDelta := by
  rcases h with rest | ⟨ticks, bomb, run⟩
  · rw [runStage_of_buying rest.buying]
    refine ⟨.inl rest, ?_⟩
    intro fault failed
    cases failed
  · rcases ofSeconds?_nonneg_or seconds with ⟨dt, nanos, dt_nonneg⟩ | bad
    · obtain ⟨result, state⟩ := run.runStage_gives nanos dt_nonneg
      rw [result, state]
      refine ⟨run.runUntil_steady (by omega), ?_⟩
      intro fault failed
      cases failed
    · obtain ⟨state, first, result, cause⟩ := run.runStage_fails bad
      rw [state, result]
      refine ⟨.inr ⟨ticks, bomb, run⟩, ?_⟩
      intro fault failed
      obtain rfl := Except.error.inj failed
      exact cause.imp Nanos.ofSeconds?_error And.right

/-! ## Commands -/

/-- A start from rest begins a run or is over at once, if the clocks can be made. -/
theorem beginRun_steady {s : Session} (can : s.holdings.CanRun) :
    ∃ t, (s.beginRun (.entered .running)).Gives () t ∧ t.Steady := by
  obtain ⟨tick, bomb, clocked⟩ := can
  rcases Nat.eq_zero_or_pos s.holdings.program.length with empty | nonempty
  · exact ⟨_, beginRun_gives_of_empty clocked empty, .inl (ended_resting _ _ _)⟩
  · exact ⟨_, beginRun_gives clocked nonempty, .inr ⟨_, _, armed_inRun clocked nonempty⟩⟩

theorem stranded_of_cannot {s : Session} (rest : s.Resting) (cannot : ¬s.holdings.CanRun) :
    s.stranded.Stranded where
  running := rfl
  no_bomb := by
    show (s.interpreter.start s.holdings.cpu s.holdings.bombDuration).state.clocks.bomb? = none
    rw [(s.interpreter.start_fails cannot).2.1, rest.idle]
    rfl

/-- A command keeps the invariant, unless it is a start that a fault stops. -/
theorem Steady.dispatch {s : Session} (h : s.Steady) (item : Submission) :
    (s.dispatch item).state.Steady ∨
      item = .command .startRun ∧ (∃ fault, (s.dispatch item).result = .error fault) ∧
        (s.dispatch item).state.Stranded := by
  have carried := dispatch_carried s item
  generalize s.dispatch item = a at carried ⊢
  cases carried with
  | unknown shown => exact .inl h
  | refused c journal => exact .inl h
  | untold c => exact .inl h
  | started buying active =>
    by_cases can : s.holdings.CanRun
    · obtain ⟨t, gives, steady⟩ := beginRun_steady can
      rw [(gives.andThen (Attempt.gives_done t true [])).state]
      exact .inl steady
    · obtain ⟨⟨fault, failed, -⟩, state⟩ := beginRun_fails can
      obtain ⟨result', state'⟩ :=
        Attempt.andThen_of_error (fun t () => Attempt.done t true) failed
      rw [state', state]
      exact .inr ⟨rfl, ⟨fault, result'⟩, stranded_of_cannot (h.resting buying) can⟩
  | reset journal running active => exact .inl (.inl ⟨rfl, rfl⟩)
  | bought journal buying sold => exact .inl (.inl ⟨buying, (h.resting buying).idle⟩)
  | added journal buying unlocked fits => exact .inl (.inl ⟨buying, (h.resting buying).idle⟩)
  | removed journal buying found => exact .inl (.inl ⟨buying, (h.resting buying).idle⟩)
  | credited journal taken => exact .inl (h.congr rfl rfl rfl rfl rfl)

/-! ## Moves and histories -/

/-- **Step lemma.** -/
theorem perform_steady {s : Session} {m : Move} (ok : ¬s.StartRaises m) (h : s.Steady) :
    (s.perform m).state.Steady := by
  refine perform_induction (fun t _ _ _ steady => steady.congr rfl rfl rfl rfl rfl)
    (fun seconds => (h.runStage seconds).1) ?_ h
  intro t item mem steady
  rcases steady.dispatch item with kept | ⟨start, failed, -⟩
  · exact kept
  · exact absurd ⟨(t, item), mem, start, failed⟩ ok

theorem new_resting (holdings : Holdings) (level : Level) :
    (Session.new holdings level).Resting :=
  ⟨rfl, rfl⟩

/-- After a history in which no start is stopped by a fault, a session is at rest or in a run. -/
theorem after_steady {holdings : Holdings} {level : Level} {moves : List Move}
    (ok : (Session.new holdings level).NoStartRaises moves) :
    ((Session.new holdings level).after moves).Steady :=
  after_induction_of_noStartRaises (fun _ _ => perform_steady)
    (.inl (new_resting holdings level)) ok

/-! ## Faults -/

/-- Only a value that is no command, a start whose clocks cannot be made and a refusal that cannot
be put into words stop a command. -/
theorem dispatch_error {s : Session} {item : Submission} {fault : Fault}
    (failed : (s.dispatch item).result = .error fault) :
    fault.OfTime ∨ fault = .numberTooLong ∨ ∃ shown, fault = .unhandledCommand shown := by
  have carried := dispatch_carried s item
  generalize s.dispatch item = a at carried failed
  cases carried with
  | unknown shown => exact .inr (.inr ⟨shown, (Except.error.inj failed).symm⟩)
  | untold c => exact .inr (.inl (Except.error.inj failed).symm)
  | started buying active =>
    by_cases can : s.holdings.CanRun
    · obtain ⟨t, gives, -⟩ := beginRun_steady can
      rw [(gives.andThen (Attempt.gives_done t true [])).result] at failed
      cases failed
    · obtain ⟨⟨first, stopped, ofTime⟩, -⟩ := beginRun_fails can
      rw [(Attempt.andThen_of_error (fun t () => Attempt.done t true) stopped).1] at failed
      exact .inl (Except.error.inj failed ▸ ofTime)
  | _ => cases failed

/-- The faults that can stop a move. -/
theorem Steady.perform_error {s : Session} (h : s.Steady) {m : Move} {fault : Fault}
    (failed : (s.perform m).result = .error fault) :
    fault.OfTime ∨ fault = .negativeDelta ∨ fault = .numberTooLong ∨
      ∃ shown, fault = .unhandledCommand shown := by
  cases m with
  | submit item => cases failed
  | dispatch item =>
    rw [(perform_dispatch s item).2] at failed
    cases result : (s.dispatch item).result with
    | error first =>
      rw [result] at failed
      obtain rfl := Except.error.inj failed
      exact (dispatch_error result).imp_right .inr
    | ok answer =>
      rw [result] at failed
      cases failed
  | update seconds =>
    cases ran : (s.runStage seconds).result with
    | error first =>
      rw [show (s.perform (.update seconds)).result = _ from (update_of_stage_error ran).1] at failed
      obtain rfl := Except.error.inj failed
      exact ((h.runStage seconds).2 _ ran).imp_right .inl
    | ok answer =>
      cases worked : (s.runStage seconds).state.runQueue.result with
      | error first =>
        rw [show (s.perform (.update seconds)).result = _ from (update_of_queue_error ran worked).1]
          at failed
        obtain rfl := Except.error.inj failed
        obtain ⟨-, given, -, stopped, -, -⟩ := runQueue_stops worked
        exact (dispatch_error stopped).imp_right .inr
      | ok answer =>
        rw [show (s.perform (.update seconds)).result = _ from (update_of_ok ran worked).result]
          at failed
        cases failed
  | drain => cases failed
  | setControls controls => cases failed

/-- **Run-state invariant.**  Between runs there are no clocks and the counter is at the start.  In
a run both clocks are there and running, and the counters, the time that has passed and the clocks
agree.  So no move is stopped by a counter out of range or by the end of a run that is not there. -/
theorem run_state_invariant {holdings : Holdings} {level : Level} {moves : List Move}
    (ok : (Session.new holdings level).NoStartRaises moves) :
    let s := (Session.new holdings level).after moves
    (s.phases.phase = .buying →
      s.interpreter.clocks.ticks? = none ∧ s.interpreter.clocks.bomb? = none ∧
        s.interpreter.pc = 0) ∧
    (s.phases.phase = .running →
      ∃ ticks bomb, s.interpreter.clocks.ticks? = some ticks ∧
        s.interpreter.clocks.bomb? = some bomb ∧
        ticks.running = true ∧ bomb.running = true ∧
        1 ≤ s.interpreter.pc ∧ s.interpreter.pc ≤ s.holdings.program.length ∧
        s.interpreter.pc = s.ticks ∧ (s.ticks : Int) = ticks.timesFinished + 1 ∧
        s.runElapsed = bomb.elapsed ∧
        bomb.elapsed = ticks.timesFinished * ticks.duration + ticks.elapsed ∧
        0 ≤ ticks.elapsed ∧ ticks.elapsed < ticks.duration ∧
        bomb.elapsed < bomb.duration ∧ bomb.remaining + s.runElapsed = bomb.duration) ∧
    ∀ m, (s.perform m).result ≠ .error .counterOutOfRange ∧
      (s.perform m).result ≠ .error .noRunToFinish := by
  intro s
  have steady : s.Steady := after_steady ok
  refine ⟨?_, ?_, ?_⟩
  · intro buying
    have rest := steady.resting (show s.phases.running = false by simp [PhaseMachine.running, buying])
    rw [rest.idle]
    exact ⟨rfl, rfl, rfl⟩
  · intro running
    obtain ⟨ticks, bomb, run⟩ :=
      steady.inRun (show s.phases.running = true by simp [PhaseMachine.running, running])
    have elapsed := run.bomb_elapsed
    have before := run.bomb_lt
    refine ⟨ticks, bomb, by rw [run.clocks]; rfl, by rw [run.clocks]; rfl, run.ticks_running,
      run.bomb_running, run.pc_pos, run.pc_le, run.pc_eq_ticks, run.pc_eq_ticks ▸ run.pc_eq,
      elapsed.symm, elapsed.trans run.elapsed_eq, run.elapsed_nonneg, run.elapsed_lt, before, ?_⟩
    unfold Timer.remaining Timer.due
    rw [if_pos run.bomb_running]
    omega
  · intro m
    constructor
    · intro failed
      rcases steady.perform_error failed with (h | h | h) | h | h | ⟨shown, h⟩ <;> cases h
    · intro failed
      rcases steady.perform_error failed with (h | h | h) | h | h | ⟨shown, h⟩ <;> cases h

theorem run_state_invariant_two_steps :
    let moves : List Move :=
      [.dispatch (.command .startRun), .submit (.command (.pickUp 3)), .update 0.15]
    let s := (Session.new .twoSteps {}).after moves
    (Session.new .twoSteps {}).NoStartRaises moves ∧ s.phases.phase = .running ∧
      ∃ ticks bomb, s.interpreter.clocks.ticks? = some ticks ∧
        s.interpreter.clocks.bomb? = some bomb ∧
        bomb.remaining + s.runElapsed = bomb.duration := by
  intro moves s
  have ok : (Session.new .twoSteps {}).NoStartRaises moves := by decide +kernel
  have running : s.phases.phase = .running := by decide +kernel
  obtain ⟨ticks, bomb, tick_clock, bomb_clock, -, -, -, -, -, -, -, -, -, -, -, left⟩ :=
    (run_state_invariant ok).2.1 running
  exact ⟨ok, running, ticks, bomb, tick_clock, bomb_clock, left⟩

end Session

end RobotWorkshop
