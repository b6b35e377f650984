import RobotWorkshop.Play.NewGame
import RobotWorkshop.Proofs.RunInvariant
import RobotWorkshop.Settings.Check

/-!
Starts that a fault stops.  A start that is refused changes nothing, and one whose clocks can be
made succeeds.  One whose clocks cannot be made is stopped half way: the session has entered the
run, has put the level back and its counters to zero, and has no bomb (`Session.stranded`).  From
then on every frame is stopped before it comes to the queue (`Stranded.update`); only a reset that
is dispatched leads out.  So the start of a run leaves a session usable just if the clocks can be
made (`start_harmless_iff`).
-/

namespace RobotWorkshop

namespace Session

/-! ## In a run without a bomb -/

/-- A frame without a bomb comes to nothing, whatever is asked for. -/
theorem advanceUpTo_of_no_bomb {s : Session} (none_there : s.interpreter.clocks.bomb? = none)
    (cap : Option Int) (dt : Int) : s.advanceUpTo cap dt = .failed s .clocksMissing := by
  unfold advanceUpTo
  cases clocks : s.interpreter.clocks with
  | armed ticks bomb =>
    rw [clocks] at none_there
    cases none_there
  | _ => rfl

theorem Stranded.congr {s t : Session} (h : s.Stranded) (running : t.running = s.running)
    (clocks : t.interpreter.clocks = s.interpreter.clocks) : t.Stranded where
  running := running.trans h.running
  no_bomb := clocks ▸ h.no_bomb

/-- The run stage does not get past the missing clock, however short the frame. -/
theorem Stranded.runStage {s : Session} (h : s.Stranded) (seconds : Float) :
    (s.runStage seconds).state = s ∧ ∃ fault, (s.runStage seconds).result = .error fault ∧
      ∀ dt, Nanos.ofSeconds? seconds = .ok dt → fault = .clocksMissing := by
  unfold Session.runStage
  rw [if_pos h.running]
  cases nanos : Nanos.ofSeconds? seconds with
  | error fault =>
    refine ⟨rfl, fault, rfl, ?_⟩
    intro dt converted
    cases converted
  | ok dt =>
    have stopped : s.advance dt = .failed s .clocksMissing := advanceUpTo_of_no_bomb h.no_bomb _ dt
    simp only [stopped]
    exact ⟨rfl, _, rfl, fun _ _ => rfl⟩

/-- Nor does the frame, which leaves the queue as it is. -/
theorem Stranded.update {s : Session} (h : s.Stranded) (seconds : Float) :
    (s.update seconds).state = s ∧ (s.update seconds).Raises ∧
      ∀ dt, Nanos.ofSeconds? seconds = .ok dt →
        (s.update seconds).result = .error .clocksMissing := by
  obtain ⟨unchanged, fault, failed, cause⟩ := h.runStage seconds
  obtain ⟨result, state⟩ := update_of_stage_error failed
  refine ⟨state.trans unchanged, ⟨fault, result⟩, ?_⟩
  intro dt nanos
  rw [result, cause dt nanos]

/-! ## Every history -/

/-- What a session can be. -/
def Possible (s : Session) : Prop := s.Steady ∨ s.Stranded

theorem Possible.congr {s t : Session} (h : s.Possible) (running : t.running = s.running)
    (interpreter : t.interpreter = s.interpreter) (counted : t.ticks = s.ticks)
    (elapsed : t.runElapsed = s.runElapsed)
    (length : t.holdings.program.length = s.holdings.program.length) : t.Possible := by
  rcases h with steady | stranded
  · exact .inl (steady.congr running interpreter counted elapsed length)
  · exact .inr (stranded.congr running (by rw [interpreter]))

theorem Stranded.dispatch {s : Session} (h : s.Stranded) (item : Submission) :
    (s.dispatch item).state.Possible := by
  have not_buying : s.running ≠ false := by simp [h.running]
  have carried := dispatch_carried s item
  generalize s.dispatch item = a at carried ⊢
  cases carried with
  | unknown shown => exact .inr h
  | refused c journal => exact .inr h
  | untold c => exact .inr h
  | started buying active => exact absurd buying not_buying
  | reset journal running active => exact .inl (.inl ⟨rfl, rfl⟩)
  | bought journal buying sold => exact absurd buying not_buying
  | added journal buying unlocked fits => exact absurd buying not_buying
  | removed journal buying found => exact absurd buying not_buying
  | credited journal taken => exact .inr (h.congr rfl rfl)

theorem Possible.dispatch {s : Session} (h : s.Possible) (item : Submission) :
    (s.dispatch item).state.Possible := by
  rcases h with steady | stranded
  · rcases steady.dispatch item with kept | ⟨-, -, lost⟩
    · exact .inl kept
    · exact .inr lost
  · exact stranded.dispatch item

/-- **Step lemma**, for every move. -/
theorem Possible.perform {s : Session} (h : s.Possible) (m : Move) :
    (s.perform m).state.Possible := by
  refine perform_induction (fun t _ _ _ kept => kept.congr rfl rfl rfl rfl rfl) ?_
    (fun t item _ kept => kept.dispatch item) h
  intro seconds
  rcases h with steady | stranded
  · exact .inl (steady.runStage seconds).1
  · rw [(stranded.runStage seconds).1]
    exact .inr stranded

theorem after_possible (holdings : Holdings) (level : Level) (moves : List Move) :
    ((Session.new holdings level).after moves).Possible :=
  after_induction (fun _ m h => h.perform m) (.inl (.inl (new_resting holdings level))) moves

theorem Possible.resting {s : Session} (h : s.Possible) (buying : s.running = false) : s.Resting := by
  rcases h with steady | stranded
  · exact steady.resting buying
  · exact absurd (buying.symm.trans stranded.running) (by simp)

/-! ## When a start does no harm -/

/-- A start that does not succeed leaves the session as it was, and no later frame is stopped
because of it; after any start a run has both clocks. -/
structure StartHarmless (s : Session) : Prop where
  untouched : (s.dispatch (.command .startRun)).result ≠ .ok true →
    let t := (s.dispatch (.command .startRun)).state
    t.phases = s.phases ∧ t.interpreter = s.interpreter ∧ t.pose = s.pose ∧
      t.level.gears = s.level.gears ∧ t.ticks = s.ticks ∧ t.runElapsed = s.runElapsed ∧
      t.outbox = s.outbox
  usable : (s.dispatch (.command .startRun)).result ≠ .ok true →
    ∀ moves seconds dt, Nanos.ofSeconds? seconds = .ok dt → 0 ≤ dt →
      (((s.dispatch (.command .startRun)).state.after moves).update seconds).Raises →
        ((s.after moves).update seconds).Raises
  both_clocks : (s.dispatch (.command .startRun)).state.phases.phase = .running →
    ∃ ticks bomb, (s.dispatch (.command .startRun)).state.interpreter.clocks = .armed ticks bomb

variable {s : Session}

/-- A start that is refused does no harm. -/
theorem harmless_of_inactive (buying : s.running = false)
    (inactive : s.phases.controls.runActive = false) : s.StartHarmless := by
  obtain ⟨-, state⟩ := dispatch_start_inactive buying inactive
  have same : (s.dispatch (.command .startRun)).state = s := state
  constructor
  · intro _
    rw [same]
    exact ⟨rfl, rfl, rfl, rfl, rfl, rfl, rfl⟩
  · intro _ moves seconds dt _ _ raises
    rwa [same] at raises
  · intro running
    rw [same] at running
    simp [Session.running, PhaseMachine.running, running] at buying

/-- A start whose clocks can be made succeeds. -/
theorem harmless_of_canRun (buying : s.running = false)
    (active : s.phases.controls.runActive = true) (can : s.holdings.CanRun) : s.StartHarmless := by
  obtain ⟨t, begun, steady⟩ := beginRun_steady can
  obtain ⟨result, state⟩ :
      (s.dispatch (.command .startRun)).Gives true t := by
    rw [dispatch_start buying active]
    exact begun.andThen (Attempt.gives_done _ _ _)
  constructor
  · intro failed
    exact absurd result failed
  · intro failed
    exact absurd result failed
  · intro running
    rw [state] at running ⊢
    obtain ⟨ticks, bomb, run⟩ :=
      steady.inRun (by simp [Session.running, PhaseMachine.running, running])
    exact ⟨ticks, bomb, run.clocks⟩

/-- A start whose clocks cannot be made is stopped in the middle. -/
theorem dispatch_start_stranded (buying : s.running = false)
    (active : s.phases.controls.runActive = true) (cannot : ¬s.holdings.CanRun) :
    (∃ fault, (s.dispatch (.command .startRun)).result = .error fault ∧ fault.OfTime) ∧
      (s.dispatch (.command .startRun)).state = s.stranded := by
  obtain ⟨⟨fault, failed, ofTime⟩, state⟩ := beginRun_fails cannot
  rw [dispatch_start buying active]
  obtain ⟨result, state'⟩ := Attempt.andThen_of_error (fun t () => Attempt.done t true) failed
  exact ⟨⟨fault, result, ofTime⟩, state'.trans state⟩

theorem not_harmless_of_cannot (buying : s.running = false)
    (active : s.phases.controls.runActive = true) (cannot : ¬s.holdings.CanRun) :
    ¬s.StartHarmless := by
  obtain ⟨⟨fault, failed, -⟩, state⟩ := dispatch_start_stranded buying active cannot
  intro harmless
  have phases := (harmless.untouched (by simp [failed])).1
  rw [state] at phases
  have running : s.running = true := congrArg PhaseMachine.running phases.symm
  exact absurd (running.symm.trans buying) (by simp)

/-- **When the start of a run leaves a session usable.**  In the shop, after any history, it does
just if the control is off or both clocks can be made.  Otherwise it is stopped by a fault and
strands the session, which no frame changes any more. -/
theorem start_harmless_iff {holdings : Holdings} {level : Level} (moves : List Move)
    (buying : ((Session.new holdings level).after moves).phases.phase = .buying) :
    let s := (Session.new holdings level).after moves
    (s.StartHarmless ↔ (s.phases.controls.runActive = true → s.holdings.CanRun)) ∧
    (s.phases.controls.runActive = true → ¬s.holdings.CanRun →
      (∃ fault, (s.dispatch (.command .startRun)).result = .error fault ∧ fault.OfTime) ∧
      (s.dispatch (.command .startRun)).state = s.stranded ∧
      s.stranded.phases.phase = .running ∧ s.stranded.interpreter.clocks.bomb? = none ∧
      ∀ seconds, (s.stranded.update seconds).state = s.stranded ∧
        ∀ dt, Nanos.ofSeconds? seconds = .ok dt →
          (s.stranded.update seconds).result = .error .clocksMissing) := by
  intro s
  have not_running : s.running = false := by
    have phase : s.phases.phase = .buying := buying
    simp [Session.running, PhaseMachine.running, phase]
  refine ⟨⟨?_, ?_⟩, ?_⟩
  · intro harmless active
    by_contra cannot
    exact not_harmless_of_cannot not_running active cannot harmless
  · intro can
    by_cases active : s.phases.controls.runActive = true
    · exact harmless_of_canRun not_running active (can active)
    · exact harmless_of_inactive not_running (by simpa using active)
  · intro active cannot
    have rest := (after_possible holdings level moves).resting not_running
    have lost := stranded_of_cannot rest cannot
    obtain ⟨failed, state⟩ := dispatch_start_stranded not_running active cannot
    refine ⟨failed, state, rfl, lost.no_bomb, ?_⟩
    intro seconds
    obtain ⟨unchanged, -, missing⟩ := lost.update seconds
    exact ⟨unchanged, missing⟩

theorem start_harmless_two_steps :
    (Session.new .twoSteps {}).phases.phase = .buying ∧
      (Session.new .twoSteps {}).StartHarmless := by
  have buying : (Session.new .twoSteps {}).phases.phase = .buying := rfl
  have harmless := (start_harmless_iff [] buying).1
  exact ⟨rfl, harmless.mpr fun _ => ⟨_, _, Holdings.twoSteps_clocked⟩⟩

/-- Settings that ask for a tenth of a nanosecond between ticks. -/
def tinyTick : Value := .record [("cpu", .record [("tick_interval", .float 1e-10)])]

/-- They are accepted, and the first start strands the session. -/
theorem start_not_harmless_tiny_tick :
    ∃ settings s, Settings.ofDocument? tinyTick = .ok settings ∧
      Session.ofSettings? settings = .ok s ∧ s.phases.phase = .buying ∧ ¬s.StartHarmless := by
  have evaluated : ((Settings.ofDocument? tinyTick).toOption.bind fun settings =>
      (Session.ofSettings? settings).toOption).any (fun s => s.phases.phase = .buying ∧
        s.phases.controls.runActive = true ∧
        (Nanos.ofSeconds? s.holdings.cpu.tickPeriod).toOption = some 0) = true := by
    decide +kernel
  cases accepted : Settings.ofDocument? tinyTick with
  | error fault => rw [accepted] at evaluated; cases evaluated
  | ok settings =>
    rw [accepted] at evaluated
    have evaluated : (Session.ofSettings? settings).toOption.any _ = true := evaluated
    cases made : Session.ofSettings? settings with
    | error fault => rw [made] at evaluated; cases evaluated
    | ok s =>
      rw [made] at evaluated
      obtain ⟨buying, active, nothing⟩ := of_decide_eq_true evaluated
      refine ⟨settings, s, rfl, made, buying, ?_⟩
      refine not_harmless_of_cannot ?_ active ?_
      · simp [Session.running, PhaseMachine.running, buying]
      · rintro ⟨tick, bomb, clocked⟩
        rw [clocked.tick_nanos] at nothing
        have := clocked.tick_pos
        obtain rfl : tick = 0 := Option.some.inj nothing
        omega

end Session

end RobotWorkshop
