import RobotWorkshop.Proofs.RunStage

/-!
The start of a run.  When both clocks can be made, the run begins with its first instruction
executed (`Session.beginRun_gives`), or is over at once if there is none
(`Session.beginRun_gives_of_empty`).  When one cannot, what was set up before stays: a session that
runs without a bomb (`Session.beginRun_fails`).
-/

namespace RobotWorkshop

/-! ## The clocks -/

/-- The faults of a time of which no timer can be made. -/
def Fault.OfTime (fault : Fault) : Prop :=
  fault = .infiniteTime ∨ fault = .undefinedTime ∨ fault = .timerNotPositive

theorem Nanos.ofSeconds?_error {seconds : Float} {fault : Fault}
    (h : Nanos.ofSeconds? seconds = .error fault) : fault.OfTime := by
  unfold Nanos.ofSeconds? at h
  dsimp only at h
  split at h
  · exact .inr (.inl (Except.error.inj h).symm)
  · split at h
    · exact .inl (Except.error.inj h).symm
    · cases h

theorem Timer.ofSeconds?_error {seconds : Float} {repeating : Bool} {fault : Fault}
    (h : Timer.ofSeconds? seconds repeating = .error fault) : fault.OfTime := by
  unfold Timer.ofSeconds? at h
  split at h
  · rename_i first
    obtain rfl := Except.error.inj h
    exact Nanos.ofSeconds?_error first
  · split at h
    · cases h
    · exact .inr (.inr (Except.error.inj h).symm)

/-- The periods of the two clocks that a run would have now, in nanoseconds. -/
structure Holdings.Clocked (h : Holdings) (tick bomb : Int) : Prop where
  tick_nanos : Nanos.ofSeconds? h.cpu.tickPeriod = .ok tick
  tick_pos : 0 < tick
  bomb_nanos : Nanos.ofSeconds? (h.cpu.scaled h.bombDuration) = .ok bomb
  bomb_pos : 0 < bomb

theorem Holdings.Clocked.unique {h : Holdings} {tick bomb tick' bomb' : Int}
    (clocked : h.Clocked tick bomb)
    (clocked' : h.Clocked tick' bomb') : tick = tick' ∧ bomb = bomb' :=
  ⟨Except.ok.inj (clocked.tick_nanos.symm.trans clocked'.tick_nanos),
    Except.ok.inj (clocked.bomb_nanos.symm.trans clocked'.bomb_nanos)⟩

/-- Both clocks of a run can be made. -/
def Holdings.CanRun (h : Holdings) : Prop := ∃ tick bomb, h.Clocked tick bomb

namespace Interpreter

/-- The interpreter at the start of a run with these clocks. -/
def armed (ticks bomb : Timer) : Interpreter := { pc := 0, clocks := .armed ticks bomb }

theorem start_gives (m : Interpreter) {h : Holdings} {tick bomb : Int}
    (clocked : h.Clocked tick bomb) :
    (m.start h.cpu h.bombDuration).Gives ()
      (armed (.fresh tick true clocked.tick_pos) (.fresh bomb false clocked.bomb_pos)) := by
  unfold start
  simp only [Timer.ofSeconds?_of_nanos true clocked.tick_nanos clocked.tick_pos,
    Timer.ofSeconds?_of_nanos false clocked.bomb_nanos clocked.bomb_pos]
  exact Attempt.gives_done _ _ _

/-- Clocks that cannot be made stop the start, and no bomb is put in place. -/
theorem start_fails (m : Interpreter) {h : Holdings} (cannot : ¬h.CanRun) :
    (∃ fault, (m.start h.cpu h.bombDuration).result = .error fault ∧ fault.OfTime) ∧
      (m.start h.cpu h.bombDuration).state.clocks.bomb? = m.clocks.bomb? ∧
      (m.start h.cpu h.bombDuration).state.pc = 0 := by
  unfold start
  dsimp only
  split
  · rename_i failed
    exact ⟨⟨_, rfl, Timer.ofSeconds?_error failed⟩, rfl, rfl⟩
  · rename_i ticks made
    split
    · rename_i failed
      refine ⟨⟨_, rfl, Timer.ofSeconds?_error failed⟩, ?_, rfl⟩
      show (m.clocks.withTicks ticks).bomb? = _
      cases m.clocks <;> rfl
    · rename_i bomb bombMade
      obtain ⟨tick, tick_pos, tick_nanos, -⟩ := Timer.ofSeconds?_eq_ok made
      obtain ⟨bomb, bomb_pos, bomb_nanos, -⟩ := Timer.ofSeconds?_eq_ok bombMade
      exact absurd ⟨tick, bomb, tick_nanos, tick_pos, bomb_nanos, bomb_pos⟩ cannot

end Interpreter

namespace Session

/-! ## The session -/

/-- The session at the start of a run, before its first tick. -/
def atStart (s : Session) (interpreter : Interpreter) : Session :=
  { s with
    phases := .entered .running
    level := s.level.restored
    pose := s.level.start
    ticks := 0
    runElapsed := 0
    outbox := s.outbox ++ [.phaseChanged .running]
    interpreter }

/-- The start of a run whose clocks are these. -/
def armed (s : Session) (ticks bomb : Timer) : Session := s.atStart (.armed ticks bomb)

theorem beginRun_eq (s : Session) :
    s.beginRun (.entered .running) =
      (((s.interpreter.start s.holdings.cpu s.holdings.bombDuration).within s.atStart).andThen
        fun t () => (t.tick.andThen fun t _ => .done t ()).after
          [.runStarted t.holdings.program.length]).after
        [s.phases.goingTo (.entered .running)] :=
  rfl

/-- A start that is not refused begins a run. -/
theorem dispatch_start {s : Session} (buying : s.running = false)
    (active : s.phases.controls.runActive = true) :
    s.dispatch (.command .startRun) =
      (s.beginRun (.entered .running)).andThen fun t () => .done t true := by
  have request : s.phases.requestStart? = .ok (.entered .running) := by
    unfold PhaseMachine.requestStart?
    rw [if_neg (by simp [show s.phases.running = false from buying]), if_neg (by simp [active])]
  show s.settle .startRun (s.phases.requestStart?.map s.beginRun) = _
  rw [request]
  rfl

/-- A start while the control is off is refused and changes nothing. -/
theorem dispatch_start_inactive {s : Session} (buying : s.running = false)
    (inactive : s.phases.controls.runActive = false) :
    (s.dispatch (.command .startRun)).Gives false s := by
  have request : s.phases.requestStart? = .error (.refused .runInactive) := by
    unfold PhaseMachine.requestStart?
    rw [if_neg (by simp [show s.phases.running = false from buying]), if_pos (by simp [inactive])]
  show (s.settle .startRun (s.phases.requestStart?.map s.beginRun)).Gives false s
  rw [request]
  exact Attempt.gives_done _ _ _

section
variable {s : Session} {tick bomb : Int} (clocked : s.holdings.Clocked tick bomb)

theorem beginRun_of_tick {goesOn : Bool} {t : Session}
    (h : (s.armed (.fresh tick true clocked.tick_pos) (.fresh bomb false clocked.bomb_pos)).tick.Gives
      goesOn t) :
    (s.beginRun (.entered .running)).Gives () t := by
  have armed := (s.interpreter.start_gives clocked).within s.atStart
  rw [beginRun_eq]
  exact (armed.andThen ((h.andThen (Attempt.gives_done _ _ _)).after _)).after _

/-- A run begins with its first instruction executed. -/
theorem beginRun_gives (nonempty : 0 < s.holdings.program.length) :
    (s.beginRun (.entered .running)).Gives ()
      ((s.armed (.fresh tick true clocked.tick_pos) (.fresh bomb false clocked.bomb_pos)).executed 1) := by
  have first : s.holdings.program.sequence[0]? = some s.holdings.program.sequence[0] :=
    List.getElem?_eq_getElem nonempty
  rw [executed_succ 0 (s := s.armed _ _) first]
  exact beginRun_of_tick clocked (tick_of_instruction (s := s.armed _ _) first)

/-- Without instructions it is over at once. -/
theorem beginRun_gives_of_empty (empty : s.holdings.program.length = 0) :
    (s.beginRun (.entered .running)).Gives ()
      ((s.armed (.fresh tick true clocked.tick_pos) (.fresh bomb false clocked.bomb_pos)).ended
        .success 0) :=
  beginRun_of_tick clocked (tick_at_end (s := s.armed _ _) rfl empty.symm)

/-- A run that begins is a run. -/
theorem armed_inRun (nonempty : 0 < s.holdings.program.length) :
    ((s.armed (.fresh tick true clocked.tick_pos) (.fresh bomb false clocked.bomb_pos)).executed 1).InRun
      (.fresh tick true clocked.tick_pos) (.fresh bomb false clocked.bomb_pos) := by
  have first : s.holdings.program.sequence[0]? = some s.holdings.program.sequence[0] :=
    List.getElem?_eq_getElem nonempty
  rw [executed_succ 0 (s := s.armed _ _) first]
  exact {
    running := rfl
    clocks := rfl
    ticks_running := rfl
    ticks_repeating := rfl
    bomb_running := rfl
    bomb_once := rfl
    pc_pos := Nat.le_refl 1
    pc_le := nonempty
    pc_eq_ticks := rfl
    pc_eq := rfl
    elapsed_eq := (Int.zero_mul _).symm ▸ rfl
    bomb_elapsed := rfl
    elapsed_nonneg := Int.le_refl 0
    elapsed_lt := clocked.tick_pos
    bomb_lt := clocked.bomb_pos }

end

/-- The session in which a run has begun without a bomb. -/
def stranded (s : Session) : Session :=
  s.atStart (s.interpreter.start s.holdings.cpu s.holdings.bombDuration).state

theorem beginRun_fails {s : Session} (cannot : ¬s.holdings.CanRun) :
    (∃ fault, (s.beginRun (.entered .running)).result = .error fault ∧ fault.OfTime) ∧
      (s.beginRun (.entered .running)).state = s.stranded := by
  obtain ⟨⟨fault, failed, ofTime⟩, -, -⟩ := s.interpreter.start_fails cannot
  have armed : ((s.interpreter.start s.holdings.cpu s.holdings.bombDuration).within s.atStart).result =
      .error fault := failed
  rw [beginRun_eq]
  obtain ⟨result, state⟩ := Attempt.andThen_of_error _ armed
  exact ⟨⟨fault, result, ofTime⟩, state⟩

end Session

/-! ## A small game -/

/-- A program of two steps, one every tenth of a second, and a bomb of ten seconds. -/
def Holdings.twoSteps : Holdings :=
  { wallet := {}
    unlocks := .ofList [.moveForward]
    cpu := { tickInterval := 0.1, multiplier := 1.0 }
    program := { capacity := 8, sequence := [.moveForward, .moveForward] }
    upgrades := { nodes := [], edges := [], roots := [] }
    bombDuration := 10.0 }

theorem Holdings.twoSteps_clocked : Holdings.twoSteps.Clocked 100000000 10000000000 where
  tick_nanos := rfl
  tick_pos := by decide
  bomb_nanos := rfl
  bomb_pos := by decide

end RobotWorkshop
