import RobotWorkshop.Proofs.AcceptedSettings
import RobotWorkshop.Proofs.RunLoops

/-!
The metrics of a script.  With frames of `delta` nanoseconds, and `F` of them before its time is up,
a run of `n` instructions with a tick clock of period `D` and a bomb of duration `B` is recorded as

    the run to its end           if min (n D) B ≤ F delta
    a timeout at F delta         otherwise

(`Session.Recorded`).  A limit on the frames makes no difference once it is large enough
(`playScript_limits`, `exists_limit`), nor does the length of the frames as long as no run times out
(`Playthrough.performAll_unique`).
-/

namespace RobotWorkshop

/-! ## One run -/

namespace ScriptSettings

variable {pace : ScriptSettings} {finish dt : Int} {k count : Nat}

/-- The time for a run is up after so many frames, and not before. -/
structure PatientFor (pace : ScriptSettings) (count : Nat) : Prop where
  before : ∀ k < count, pace.waited 0.0 k < pace.maxRunSeconds
  after : ¬pace.waited 0.0 count < pace.maxRunSeconds

/-- There is time for a run of so many nanoseconds. -/
def HasTimeFor (pace : ScriptSettings) (dt finish : Int) : Prop :=
  ∀ count, pace.PatientFor count → finish ≤ count * dt

/-- A loop that has time for the run stops when it is over. -/
theorem StopsAfter.finish_le (stops : pace.StopsAfter finish dt k) (time : pace.HasTimeFor dt finish) :
    finish ≤ k * dt := by
  by_contra before
  have late : ¬pace.waited 0.0 k < pace.maxRunSeconds :=
    fun in_time => stops.stops ⟨not_le.mp before, in_time⟩
  exact before (time k ⟨fun j lt => (stops.goes_on j lt).2, late⟩)

/-- A loop whose time is up before stops then. -/
theorem StopsAfter.eq_count (stops : pace.StopsAfter finish dt k) (nonneg : 0 ≤ dt)
    (patient : pace.PatientFor count) (before : count * dt < finish) : k = count := by
  rcases Nat.lt_trichotomy k count with early | same | late
  · have shorter : (k : Int) * dt ≤ count * dt :=
      Int.mul_le_mul_of_nonneg_right (Int.ofNat_le.mpr early.le) nonneg
    exact absurd ⟨lt_of_le_of_lt shorter before, patient.before k early⟩ stops.stops
  · exact same
  · exact absurd (stops.goes_on count late).2 patient.after

/-- Whether the loop lets a first frame pass does not depend on its length. -/
theorem StopsAfter.of_zero {dt' : Int} (stops : pace.StopsAfter finish dt 0) :
    pace.StopsAfter finish dt' 0 where
  goes_on j lt := absurd lt (Nat.not_lt_zero j)
  stops goes_on := stops.stops (by simpa [GoesOn] using goes_on)

end ScriptSettings

namespace Session

/-- What the record tells of a run that began in `s`, with clocks of these periods and frames of
`delta` nanoseconds. -/
structure Recorded (s : Session) (pace : ScriptSettings) (delta tick bomb : Int) (run : Nat)
    (record : RunRecord) : Prop where
  success :
    let n := s.holdings.program.length
    n = 0 ∨ n * tick < bomb → n = 0 ∨ pace.HasTimeFor delta (min (n * tick) bomb) →
      record = s.recorded run (.completed .success) n (n * tick)
  failure :
    let n := s.holdings.program.length
    0 < n → bomb ≤ n * tick → pace.HasTimeFor delta (min (n * tick) bomb) →
      record = s.recorded run (.completed .failure) ((bomb + tick - 1) / tick).toNat bomb
  timeout :
    let n := s.holdings.program.length
    ∀ count, pace.PatientFor count → count * delta < min (n * tick) bomb →
      record = s.recorded run .timedOut ((count * delta / tick).toNat + 1) (count * delta)

variable {level : Level} {s u : Session} {pace : ScriptSettings} {delta tick bomb : Int}
  {frames run k : Nat} {record : RunRecord}

theorem recorded_of_stops (clocked : s.holdings.Clocked tick bomb) (nonneg : 0 ≤ delta)
    (stops : pace.StopsAfter (s.courseAhead tick bomb).finish delta k)
    (completed : (s.courseAhead tick bomb).finish ≤ k * delta →
      record = s.recorded run (.completed (s.courseAhead tick bomb).outcome)
        (s.courseAhead tick bomb).count (s.courseAhead tick bomb).finish)
    (timed_out : k * delta < (s.courseAhead tick bomb).finish →
      record = s.recorded run .timedOut ((k * delta / tick).toNat + 1) (k * delta)) :
    s.Recorded pace delta tick bomb run record := by
  constructor
  · intro n through time
    have no_time : n = 0 → n * tick = 0 := fun empty => by
      rw [empty, Int.natCast_zero, Int.zero_mul]
    have through : n * tick < bomb :=
      through.elim (fun empty => no_time empty ▸ clocked.bomb_pos) id
    obtain ⟨outcome, count, finish⟩ := Course.ends_in_success (c := s.courseAhead tick bomb) through
    have at_end : (s.courseAhead tick bomb).finish ≤ k * delta := by
      rcases time with empty | time
      · exact finish.trans (no_time empty) ▸ Int.mul_nonneg (Int.natCast_nonneg k) nonneg
      · exact stops.finish_le time
    have told := completed at_end
    rwa [outcome, count, finish] at told
  · intro n nonempty not_through time
    obtain ⟨outcome, count, finish⟩ := Course.ends_in_failure (c := s.courseAhead tick bomb) not_through
    have told := completed (stops.finish_le time)
    rwa [outcome, count, finish] at told
  · intro n count patient before
    obtain rfl := stops.eq_count nonneg patient before
    exact timed_out before

/-- **A run that is played without a fault is recorded exactly.** -/
theorem Between.recorded (h : s.Between level) (distinct : level.layout.Distinct)
    (positive : ∀ gear ∈ level.layout, 0 < gear.2)
    (nanos : Nanos.ofSeconds? pace.frameDt = .ok delta) (takes_time : 1 ≤ delta)
    (played : (s.playRun pace frames run).Gives record u) :
    ∃ tick bomb, s.holdings.Clocked tick bomb ∧ s.Recorded pace delta tick bomb run record := by
  obtain ⟨tick, bomb, t, w, dt, k, inv⟩ := h.playRun_inv distinct positive played
  have nonneg : 0 ≤ delta := by omega
  have completed := fun enough => (inv.completed enough).1
  have timed_out := inv.timed_out
  refine ⟨tick, bomb, inv.clocked, ?_⟩
  rcases inv.nanos with rfl | nanos'
  · have no_time : ((0 : Nat) : Int) * dt = (0 : Nat) * delta := by simp
    rw [no_time] at completed timed_out
    exact recorded_of_stops inv.clocked nonneg inv.stops.of_zero completed timed_out
  · obtain rfl := Except.ok.inj (nanos'.symm.trans nanos)
    exact recorded_of_stops inv.clocked nonneg inv.stops completed timed_out

end Session

/-! ## Limits on the frames -/

namespace Attempt

variable {σ τ α β : Type} {a b : Attempt σ α}

/-- The first attempt is the second, but for a limit on its frames that may be reached. -/
def Limits (a b : Attempt σ α) : Prop := a.result ≠ .error .framesSpent → b = a

theorem Limits.refl (a : Attempt σ α) : a.Limits a := fun _ => rfl

theorem Limits.within (h : a.Limits b) (embed : σ → τ) : (a.within embed).Limits (b.within embed) :=
  fun enough => congrArg (·.within embed) (h enough)

theorem Limits.andThen (h : a.Limits b) {next next' : σ → α → Attempt σ β}
    (others : ∀ s v, (next s v).Limits (next' s v)) :
    (a.andThen next).Limits (b.andThen next') := by
  intro enough
  obtain ⟨result, state, journal⟩ := a
  cases result with
  | error fault =>
    rw [h fun spent => enough (by rw [Except.error.inj spent]; rfl)]
    rfl
  | ok v =>
    rw [h nofun]
    exact congrArg (·.after journal) (others state v enough)

end Attempt

section
variable {n m : Nat} (le : n ≤ m) (pace : ScriptSettings)
include le

theorem Session.playRun_limits (s : Session) (run : Nat) :
    (s.playRun pace n run).Limits (s.playRun pace m run) :=
  (Attempt.Limits.refl _).andThen fun _ _ =>
    Attempt.Limits.andThen (passFrames_of_le le) fun _ _ => .refl _

theorem Playthrough.perform_limits (p : Playthrough) (step : Step) :
    (p.perform pace n step).Limits (p.perform pace m step) := by
  by_cases run : step.action = .run
  · rw [perform_of_run run, perform_of_run run]
    exact ((p.session.playRun_limits le pace _).within _).andThen fun _ _ => .refl _
  · obtain ⟨action, instruction, index, amount, seconds, has⟩ := step
    cases action with
    | run => exact absurd rfl run
    | _ => exact .refl _

theorem Playthrough.performAll_limits (p : Playthrough) (steps : List Step) :
    (p.performAll pace n steps).Limits (p.performAll pace m steps) := by
  induction steps generalizing p with
  | nil => exact .refl _
  | cons step steps ih => exact (p.perform_limits le pace step).andThen fun q () => ih q

/-- **A limit on the frames** of each run makes no difference unless it is reached. -/
theorem playScript_limits (settings : Settings) :
    (playScript n settings).Limits (playScript m settings) :=
  (Attempt.Limits.refl _).andThen fun _ p =>
    ((p.performAll_limits le settings.script settings.script.steps).andThen fun _ () =>
      .refl _).within some

end

section
variable {level : Level} {s : Session} {p q q' : Playthrough} {pace pace' : ScriptSettings} {step : Step}
  {steps : List Step} {frames frames' : Nat} {delta : Int} (distinct : level.layout.Distinct)
  (positive : ∀ gear ∈ level.layout, 0 < gear.2)
include distinct positive

section
variable (nanos : Nanos.ofSeconds? pace.frameDt = .ok delta) (takes_time : 1 ≤ delta)
include nanos takes_time

/-- A run is over, or given up, after finitely many frames. -/
theorem Session.Between.exists_limit (h : s.Between level) (run : Nat) :
    ∃ limit, (s.playRun pace limit run).result ≠ .error .framesSpent := by
  by_cases can : s.holdings.CanRun
  · obtain ⟨tick, bomb, clocked⟩ := can
    obtain ⟨events, t, w, order, launched⟩ := h.launch clocked distinct positive
    obtain ⟨k, stops⟩ := pace.exists_stopsAfter (s.courseAhead tick bomb).finish takes_time
    have nonneg : 0 ≤ delta := by omega
    obtain ⟨record, u, played, -⟩ := launched.playRun_gives h order nonneg
      (launched.passFrames_gives nanos nonneg stops (Nat.lt_succ_self k)) run
    exact ⟨k + 1, by rw [played.result]; nofun⟩
  · obtain ⟨fault, failed, of_time⟩ := h.order_start_fails can
    refine ⟨0, fun spent => ?_⟩
    rw [playRun, (Attempt.andThen_of_error _ failed).1] at spent
    obtain rfl := Except.error.inj spent
    simp [Fault.OfTime] at of_time

theorem Playthrough.exists_limit_step (h : p.session.Between level) (step : Step) :
    ∃ limit, (p.perform pace limit step).result ≠ .error .framesSpent := by
  by_cases run : step.action = .run
  · obtain ⟨limit, enough⟩ := h.exists_limit distinct positive nanos takes_time p.records.length
    refine ⟨limit, fun spent => enough ?_⟩
    rw [perform_of_run run] at spent
    have failed := Attempt.error_of_andThen spent fun _ _ recorded => by
      split at recorded <;> cases recorded
    exact failed
  · refine ⟨0, ?_⟩
    by_cases answered : p.Answers step
    · obtain ⟨s, -, gives⟩ := perform_of_not_run h run answered
      rw [(gives pace 0).result]
      nofun
    · rw [perform_of_unanswered h answered]
      nofun

/-- So are all runs of a script. -/
theorem Playthrough.exists_limit (h : p.session.Between level) (steps : List Step) :
    ∃ limit, (p.performAll pace limit steps).result ≠ .error .framesSpent := by
  induction steps generalizing p with
  | nil => exact ⟨0, nofun⟩
  | cons step steps ih =>
    obtain ⟨first, enough⟩ := exists_limit_step distinct positive nanos takes_time h step
    cases done : (p.perform pace first step).result with
    | error fault =>
      rw [done] at enough
      refine ⟨first, fun spent => enough ?_⟩
      rw [performAll, (Attempt.andThen_of_error _ done).1] at spent
      exact spent
    | ok answer =>
      obtain ⟨between, -⟩ := perform_inv h distinct positive ⟨done, rfl⟩
      obtain ⟨second, others⟩ := ih between
      have same := perform_limits (Nat.le_max_left first second) pace p step enough
      have same' := performAll_limits (Nat.le_max_right first second) pace _ steps others
      refine ⟨max first second, ?_⟩
      rw [performAll, same, (Attempt.andThen_of_ok _ done).1, same']
      exact others

end

/-- Of a run that is not given up the record, and the session that it leaves behind, do not depend
on the frames. -/
theorem Session.Between.playRun_unique (h : s.Between level) {run : Nat} {record record' : RunRecord}
    {u u' : Session} (played : (s.playRun pace frames run).Gives record u)
    (played' : (s.playRun pace' frames' run).Gives record' u')
    (in_time : record.ending ≠ .timedOut) (in_time' : record'.ending ≠ .timedOut) :
    record = record' ∧ u = u' := by
  obtain ⟨tick, bomb, t, w, dt, k, inv⟩ := h.playRun_inv distinct positive played
  obtain ⟨tick', bomb', t', w', dt', k', inv'⟩ := h.playRun_inv distinct positive played'
  obtain ⟨rfl, rfl⟩ := inv.clocked.unique inv'.clocked
  obtain ⟨events, order⟩ := inv.started
  obtain ⟨events', order'⟩ := inv'.started
  obtain rfl := order.state.symm.trans order'.state
  obtain rfl := inv.launched.unique inv'.launched
  obtain ⟨rfl, rfl⟩ := inv.completed (not_lt.mp fun before => in_time (inv.timed_out before ▸ rfl))
  obtain ⟨rfl, rfl⟩ := inv'.completed (not_lt.mp fun before => in_time' (inv'.timed_out before ▸ rfl))
  exact ⟨rfl, rfl⟩

/-- **The length of the frames makes no difference** as long as no run times out. -/
theorem Playthrough.performAll_unique (h : p.session.Between level)
    (done : (p.performAll pace frames steps).Gives () q)
    (done' : (p.performAll pace' frames' steps).Gives () q')
    (in_time : ∀ record ∈ q.records ++ q'.records, record.ending ≠ .timedOut) : q = q' := by
  induction steps generalizing p with
  | nil => exact done.state.symm.trans done'.state
  | cons step steps ih =>
    obtain ⟨⟨⟩, m, first, others⟩ := done.of_andThen
    obtain ⟨⟨⟩, m', first', others'⟩ := done'.of_andThen
    obtain ⟨between, -, recorded⟩ := perform_inv h distinct positive first
    obtain ⟨between', -, recorded'⟩ := perform_inv h distinct positive first'
    obtain ⟨-, more, records, -⟩ := performAll_inv between distinct positive others
    obtain ⟨-, more', records', -⟩ := performAll_inv between' distinct positive others'
    have same : m = m' := by
      by_cases run : step.action = .run
      · obtain ⟨record, kept, played⟩ := recorded run
        obtain ⟨record', kept', played'⟩ := recorded' run
        have in_time_here : record.ending ≠ .timedOut :=
          in_time record (List.mem_append_left _ (by simp [records, kept]))
        have in_time_there : record'.ending ≠ .timedOut :=
          in_time record' (List.mem_append_right _ (by simp [records', kept']))
        obtain ⟨rfl, session⟩ :=
          h.playRun_unique distinct positive played played' in_time_here in_time_there
        exact congrArg₂ Playthrough.mk session (kept.trans kept'.symm)
      · obtain ⟨s, -, gives⟩ := perform_of_not_run h run (answers_of_perform h first)
        exact (first.state.symm.trans (gives pace frames).state).trans
          ((gives pace' frames').state.symm.trans first'.state)
    subst same
    exact ih between others others'

end

theorem playScript_inv {settings : Settings} {frames : Nat} {p : Playthrough}
    (played : (playScript frames settings).result = .ok p) :
    ∃ game, (openGame settings).result = .ok game ∧
      (game.performAll settings.script frames settings.script.steps).Gives () p := by
  have gives : (playScript frames settings).Gives p _ := ⟨played, rfl⟩
  obtain ⟨game, state, opened, rest⟩ := gives.of_andThen
  obtain ⟨last, rest, -⟩ := rest.of_within
  obtain ⟨⟨⟩, q, done, same⟩ := rest.of_andThen
  obtain rfl := Except.ok.inj same.result
  exact ⟨game, opened.result, done⟩

/-! ## A script -/

/-- The same settings with other frames. -/
def Settings.withFrames (settings : Settings) (frameDt : Float) : Settings :=
  { settings with script := { settings.script with frameDt } }

/-- A game is not opened in frames. -/
theorem openGame_ne_framesSpent {document : Value} {settings : Settings}
    (accepted : Settings.ofDocument? document = .ok settings) :
    (openGame settings).result ≠ .error .framesSpent := by
  obtain ⟨turned_down, sound⟩ := Session.ofSettings?_of_accepted accepted
  cases tree : UpgradeGraph.ofSettings? settings.upgrades with
  | error fault =>
    rw [openGame_of_error (turned_down fault tree)]
    rcases UpgradeGraph.new?_error tree with ⟨cause, -, rfl⟩ | rfl <;> nofun
  | ok graph =>
    obtain ⟨whole, short⟩ := sound graph tree
    by_cases points : settings.level.HasPoints
    · obtain ⟨s, made⟩ := whole points
      rw [(openGame_of_ok made).result]
      nofun
    · rw [openGame_of_error (short points)]
      nofun

/-- The script of accepted settings comes to an end, or is stopped by a fault, after finitely many
frames. -/
theorem exists_limit {document : Value} {settings : Settings} {delta : Int}
    (accepted : Settings.ofDocument? document = .ok settings)
    (nanos : Nanos.ofSeconds? settings.script.frameDt = .ok delta) (takes_time : 1 ≤ delta) :
    ∃ limit, (playScript limit settings).result ≠ .error .framesSpent := by
  cases opened : (openGame settings).result with
  | error fault =>
    refine ⟨0, fun spent => ?_⟩
    rw [playScript, (Attempt.andThen_of_error _ opened).1] at spent
    obtain rfl := Except.error.inj spent
    exact openGame_ne_framesSpent accepted opened
  | ok game =>
    obtain ⟨level, laid_out, between, -⟩ := openGame_inv opened
    obtain ⟨distinct, positive⟩ := Level.ofSettings?_layout laid_out
    obtain ⟨limit, enough⟩ := Playthrough.exists_limit distinct positive nanos takes_time between
      settings.script.steps
    refine ⟨limit, fun spent => enough ?_⟩
    rw [playScript, (Attempt.andThen_of_ok _ opened).1] at spent
    exact Attempt.error_of_andThen spent fun _ _ done => by cases done

/-- Each run of a script that is played to its end. -/
theorem Playthrough.recorded_at {level : Level} {pace : ScriptSettings} {frames : Nat} {delta : Int}
    {game p : Playthrough} {before after : List Step} {step : Step}
    (h : game.session.Between level) (new : game.records = []) (distinct : level.layout.Distinct)
    (positive : ∀ gear ∈ level.layout, 0 < gear.2)
    (nanos : Nanos.ofSeconds? pace.frameDt = .ok delta) (takes_time : 1 ≤ delta)
    (done : (game.performAll pace frames (before ++ step :: after)).Gives () p)
    (run : step.action = .run) :
    let number := before.countP (·.action = .run)
    ∃ q tick bomb record, (game.performAll pace frames before).Gives () q ∧
      q.session.level.start = level.start ∧ q.session.level.layout = level.layout ∧
      q.session.holdings.Clocked tick bomb ∧ p.records[number]? = some record ∧
      q.session.Recorded pace delta tick bomb number record := by
  intro number
  obtain ⟨q, reached, rest⟩ := performAll_append done
  obtain ⟨⟨⟩, q', performed, others⟩ := rest.of_andThen
  obtain ⟨between, earlier, records, count⟩ := performAll_inv h distinct positive reached
  obtain ⟨between', -, recorded⟩ := perform_inv between distinct positive performed
  obtain ⟨-, later, records', -⟩ := performAll_inv between' distinct positive others
  obtain ⟨record, kept, played⟩ := recorded run
  rw [new, List.nil_append] at records
  have length : q.records.length = number := by rw [records, count]
  obtain ⟨tick, bomb, clocked, exact⟩ := between.recorded distinct positive nanos takes_time played
  rw [length] at exact
  refine ⟨q, tick, bomb, record, reached, between.start, between.layout, clocked, ?_, exact⟩
  rw [records', kept, ← length]
  simp

/-- **Metrics are exact and do not depend on the frames.**  With accepted settings whose frames take
at least a nanosecond, each run takes finitely many frames.  If the script is played to its end,
there is a record for each step that runs the program, in this order, and it is that of the run to
its end or of the moment its time was up; `q` is the playthrough before the step.  Settings that
differ in the length of the frames only give the same records, if none of them is of a timeout. -/
theorem metrics_exact {document : Value} {settings : Settings} {delta : Int}
    (accepted : Settings.ofDocument? document = .ok settings)
    (nanos : Nanos.ofSeconds? settings.script.frameDt = .ok delta) (takes_time : 1 ≤ delta) :
    (∃ limit, (playScript limit settings).result ≠ .error .framesSpent ∧
      ∀ frames, limit ≤ frames → playScript frames settings = playScript limit settings) ∧
    (∀ frames p, (playScript frames settings).result = .ok p →
      ∃ game level, (openGame settings).result = .ok game ∧
        Level.ofSettings? settings.level = .ok level ∧
        p.records.length = settings.script.steps.countP (·.action = .run) ∧
        ∀ before step after, settings.script.steps = before ++ step :: after → step.action = .run →
          let number := before.countP (·.action = .run)
          ∃ q tick bomb record, (game.performAll settings.script frames before).Gives () q ∧
            q.session.level.start = level.start ∧ q.session.level.layout = level.layout ∧
            q.session.holdings.Clocked tick bomb ∧ p.records[number]? = some record ∧
            q.session.Recorded settings.script delta tick bomb number record) ∧
    ∀ frameDt frames frames' p p', (playScript frames settings).result = .ok p →
      (playScript frames' (settings.withFrames frameDt)).result = .ok p' →
      (∀ record ∈ p.records ++ p'.records, record.ending ≠ .timedOut) → p.records = p'.records := by
  refine ⟨?_, fun frames p played => ?_, fun frameDt frames frames' p p' played played' in_time => ?_⟩
  · obtain ⟨limit, enough⟩ := exists_limit accepted nanos takes_time
    exact ⟨limit, enough, fun frames le => playScript_limits le settings enough⟩
  · obtain ⟨game, opened, done⟩ := playScript_inv played
    obtain ⟨level, laid_out, between, new⟩ := openGame_inv opened
    obtain ⟨distinct, positive⟩ := Level.ofSettings?_layout laid_out
    obtain ⟨-, more, records, count⟩ := Playthrough.performAll_inv between distinct positive done
    rw [new, List.nil_append] at records
    refine ⟨game, level, opened, laid_out, records ▸ count, fun before step after steps run => ?_⟩
    rw [steps] at done
    exact Playthrough.recorded_at between new distinct positive nanos takes_time done run
  · obtain ⟨game, opened, done⟩ := playScript_inv played
    obtain ⟨game', opened', done'⟩ := playScript_inv played'
    have same : openGame (settings.withFrames frameDt) = openGame settings := rfl
    rw [same] at opened'
    obtain rfl := Except.ok.inj (opened.symm.trans opened')
    obtain ⟨level, laid_out, between, -⟩ := openGame_inv opened
    obtain ⟨distinct, positive⟩ := Level.ofSettings?_layout laid_out
    rw [Playthrough.performAll_unique distinct positive between done done' in_time]

/-- Settings with a gear in the robot's way, a script of two runs, and frames of a quarter of a
second. -/
def twoRuns : Value :=
  let step (name : String) : Value := .record [("action", .text name)]
  let add : Value := .record [("action", .text "add"), ("instruction", .text "move_forward")]
  .record [
    ("level", .record [("gears", .list [.record [("position", .list [.integer 1, .integer 0])]])]),
    ("script", .record [("frame_dt", .float 0.25), ("steps", .list [step "run", add, step "run"])])]

/-- Both runs are recorded, and half a second for each frame gives the same records. -/
theorem metrics_exact_two_runs :
    ∃ settings p p', Settings.ofDocument? twoRuns = .ok settings ∧
      (playScript 9 settings).result = .ok p ∧ p.records.length = 2 ∧
      (playScript 9 (settings.withFrames 0.5)).result = .ok p' ∧ p.records = p'.records := by
  have evaluated : (Settings.ofDocument? twoRuns).toOption.any (fun settings =>
      Nanos.ofSeconds? settings.script.frameDt = .ok 250000000 ∧
      settings.script.steps.countP (·.action = .run) = 2 ∧
      (playScript 9 settings).result.toOption.any (fun p =>
        ∀ record ∈ p.records, record.ending ≠ .timedOut) ∧
      (playScript 9 (settings.withFrames 0.5)).result.toOption.any (fun p =>
        ∀ record ∈ p.records, record.ending ≠ .timedOut)) = true := by
    decide +kernel
  obtain ⟨settings, accepted, found⟩ := of_any_toOption evaluated
  simp only [Bool.decide_and, Bool.and_eq_true, decide_eq_true_eq] at found
  obtain ⟨nanos, runs, found, found'⟩ := found
  obtain ⟨p, played, in_time⟩ := of_any_toOption found
  obtain ⟨p', played', in_time'⟩ := of_any_toOption found'
  obtain ⟨-, records, same⟩ := metrics_exact accepted nanos (by decide)
  obtain ⟨game, level, -, -, count, -⟩ := records 9 p played
  refine ⟨settings, p, p', accepted, played, count.trans runs, played',
    same 0.5 9 9 p p' played played' ?_⟩
  exact List.forall_mem_append.mpr ⟨of_decide_eq_true in_time, of_decide_eq_true in_time'⟩

end RobotWorkshop
