import RobotWorkshop.Proofs.EventGrammar
import RobotWorkshop.Proofs.Metrics

/-!
The runs of a script are sealed off from each other.  Between two steps the shop is open and nothing
is queued or left to be told, so what a run tells is told by itself,

    it goes on        running
    it is over        running, completed outcome, buying

and the session's last outcome is that of this run as soon as it is over (`Session.RunTold`).  The
record of the run is made of it there, or of a run that still goes on and is given up
(`Session.Concluded`), so no outcome is left over from an earlier run.  To wait changes nothing at
all (`Playthrough.performAll_unwaited`).
-/

namespace RobotWorkshop

/-- The outcome of a run that an event tells. -/
def Event.outcome : Event → Option Outcome
  | .runCompleted outcome _ => some outcome
  | _ => none

/-- Ticks and changes of the balance tell of no phase, and of no outcome. -/
theorem Event.unspoken {e : Event} (h : e.ofTick = true ∨ e.ofWallet = true) :
    e.phase = none ∧ e.outcome = none := by
  cases e with
  | tickExecuted i pc => exact ⟨rfl, rfl⟩
  | walletChanged balance => exact ⟨rfl, rfl⟩
  | _ => simp [ofTick, ofWallet] at h

namespace Session

variable {level : Level} {s t u : Session} {told more events : List Event} {outcome : Option Outcome}
  {pace : ScriptSettings} {frames number : Nat} {record : RunRecord}

/-! ## What a run tells -/

/-- What one run has told by now, from its start on, with its outcome if it is over. -/
structure RunTold (told : List Event) (outcome : Option Outcome) (s : Session) : Prop where
  phases : told.filterMap Event.phase = .running :: (outcome.map fun _ => .buying).toList
  outcomes : told.filterMap Event.outcome = outcome.toList
  running : s.running = outcome.isNone
  last : ∀ o, outcome = some o → s.lastOutcome = some o

/-- Ticks and changes of the balance leave it as it is. -/
theorem RunTold.unspoken (h : RunTold told outcome s)
    (unspoken : ∀ e ∈ more, e.ofTick = true ∨ e.ofWallet = true) (running : t.running = s.running)
    (last : t.lastOutcome = s.lastOutcome) : RunTold (told ++ more) outcome t := by
  have no_phase : more.filterMap Event.phase = [] :=
    List.filterMap_eq_nil_iff.mpr fun e mem => (Event.unspoken (unspoken e mem)).1
  have no_outcome : more.filterMap Event.outcome = [] :=
    List.filterMap_eq_nil_iff.mpr fun e mem => (Event.unspoken (unspoken e mem)).2
  constructor
  · rw [List.filterMap_append, no_phase, List.append_nil, h.phases]
  · rw [List.filterMap_append, no_outcome, List.append_nil, h.outcomes]
  · exact running.trans h.running
  · exact fun o ended => last.trans (h.last o ended)

/-- **Step lemma.**  A run that goes on tells no more than its ticks until it is over. -/
theorem RunTold.runs (h : RunTold told none s) (runs : s.Runs more t) :
    ∃ outcome, RunTold (told ++ more) outcome t := by
  have ticks : ∀ n, ∀ e ∈ s.holdings.program.ticksFrom s.interpreter.pc n,
      e.ofTick = true ∨ e.ofWallet = true :=
    fun n e mem => .inl (Program.ofTick_ticksFrom _ _ n e mem)
  cases runs with
  | @goesOn n clocks time fit =>
    refine ⟨none, h.unspoken (ticks n) (congrArg PhaseMachine.running (executed_phases s n)) ?_⟩
    show (s.executed n).lastOutcome = s.lastOutcome
    rw [executed_rest]
  | @ends n outcome time fit through =>
    have so_far : RunTold (told ++ s.holdings.program.ticksFrom s.interpreter.pc n) none s :=
      h.unspoken (ticks n) rfl rfl
    refine ⟨some outcome, ?_, ?_, rfl, fun o same => same⟩
    · rw [← List.append_assoc, List.filterMap_append, so_far.phases]
      rfl
    · rw [← List.append_assoc, List.filterMap_append, so_far.outcomes]
      rfl

/-- In a run, a frame that is not stopped has a length. -/
theorem InRun.nanos_of_update {ticks bomb : Timer} {seconds : Float} (run : s.InRun ticks bomb)
    (gives : (s.update seconds).Gives events t) :
    ∃ dt, Nanos.ofSeconds? seconds = .ok dt ∧ 0 ≤ dt := by
  refine (ofSeconds?_nonneg_or seconds).resolve_right fun bad => ?_
  obtain ⟨-, fault, failed, -⟩ := run.runStage_fails bad
  cases gives.result.symm.trans (update_of_stage_error failed).1

/-- What a run tells is what time brings. -/
theorem InRun.passed_runs {ticks bomb : Timer} {dt : Int} {found : List Int} {news : List Event}
    (run : s.InRun ticks bomb) (brings : s.Brings dt found news) : s.Runs news (s.passed dt) := by
  obtain ⟨told, runs⟩ := run.runUntil_runs (s.runElapsed + dt)
  rw [← run.passed_eq] at runs
  have brought : (s.passed dt).outbox = s.outbox ++ news :=
    congrArg (·.outbox) (brings s.surroundings)
  rwa [List.append_cancel_left (runs.outbox.symm.trans brought)] at runs

/-- A frame in a run. -/
theorem RunTold.update {seconds : Float} (h : RunTold told none s) (steady : s.Steady)
    (clear : s.Clear) (gives : (s.update seconds).Gives events t) :
    t.Steady ∧ t.Clear ∧ ∃ outcome, RunTold (told ++ events) outcome t := by
  obtain ⟨ticks, bomb, run⟩ := steady.inRun h.running
  obtain ⟨dt, nanos, nonneg⟩ := run.nanos_of_update gives
  obtain ⟨found, news, brings, -⟩ := s.exists_brings dt
  -- a gear that is not answered would have stopped the frame
  have answerable : ∀ amount ∈ found, Answerable amount := by
    by_contra bad
    push Not at bad
    have stopped := steady.frame_fails clear nonneg brings bad
    rw [← s.update_eq_frame nanos] at stopped
    cases gives.result.symm.trans stopped
  have frame := steady.frame_gives clear nonneg brings answerable
  rw [← s.update_eq_frame nanos] at frame
  obtain rfl := frame.state.symm.trans gives.state
  obtain rfl := Except.ok.inj (frame.result.symm.trans gives.result)
  obtain ⟨outcome, ran⟩ := h.runs (run.passed_runs brings)
  refine ⟨steady.settled nonneg found, clear.settled dt found, outcome, ?_⟩
  rw [← List.append_assoc]
  exact ran.unspoken (fun e mem => .inr (s.receipts_ofWallet found e mem)) rfl rfl

/-- **Run lemma.**  So do the frames of a loop. -/
theorem RunTold.passFrames {waited total : Float} {past : List Entry} (h : RunTold told outcome s)
    (steady : s.Steady) (clear : s.Clear)
    (loop : (s.passFrames pace frames waited past).Gives total t) :
    ∃ k outcome, t = s.after (List.replicate k (.update pace.frameDt)) ∧
      RunTold (told ++ s.emitted (List.replicate k (.update pace.frameDt))) outcome t := by
  induction frames generalizing s told outcome waited past with
  | zero => cases loop.result
  | succ n ih =>
    by_cases waits : s.Waits pace waited
    · have goes_on : outcome = none := Option.isNone_iff_eq_none.mp (h.running.symm.trans waits.1)
      subst goes_on
      cases frame : (s.update pace.frameDt).result with
      | error fault => cases loop.result.symm.trans (passFrames_of_fault n waits frame)
      | ok events =>
        rw [passFrames_of_waits n waits frame] at loop
        obtain ⟨steady', clear', outcome, ran⟩ := h.update steady clear ⟨frame, rfl⟩
        obtain ⟨k, outcome, same, ran⟩ := ih ran steady' clear' loop
        refine ⟨k + 1, outcome, same, ?_⟩
        have first : s.emitted (List.replicate (k + 1) (.update pace.frameDt)) =
            events ++
              (s.update pace.frameDt).state.emitted (List.replicate k (.update pace.frameDt)) := by
          show (s.update pace.frameDt).result.toOption.getD [] ++ _ = _
          rw [frame]
          rfl
        rwa [first, ← List.append_assoc]
    · rw [passFrames_of_not_waits n waits] at loop
      obtain rfl : s = t := loop.state
      refine ⟨0, outcome, rfl, ?_⟩
      show RunTold (told ++ []) outcome s
      rwa [List.append_nil]

/-! ## How a run is concluded -/

/-- Gears that are credited are told of by the wallet, behind all else. -/
theorem credited_told (s : Session) (found : List Int) :
    ∃ more,
      ({ s.surroundings with queue := [] }.credited s.holdings.upgrades found).outbox =
        s.outbox ++ more ∧
      ∀ e ∈ more, e.ofWallet = true := by
  let c := { s.surroundings with queue := [] }
  exact ⟨_, congrArg (·.outbox) (Surroundings.credited_outbox s.holdings.upgrades c found),
    Surroundings.credited_ofWallet _ c.silent found (nofun)⟩

/-- A start that is ordered in the shop, as a turn, and the gears of its first tick. -/
theorem Between.order_start_inv (h : s.Between level) (order : (s.order .startRun).Gives events t) :
    ∃ x told more found, s.Turn (some .startRun) told x ∧ x.Steady ∧ t = x.cleared found ∧
      events = told ++ more ∧ ∀ e ∈ more, e.ofWallet = true := by
  have rest : s.Steady := .inl h.resting
  obtain ⟨told, turn⟩ := beginRun_turn h.buying
  have started := Session.dispatch_start h.buying h.active
  cases begun : (s.beginRun (.entered .running)).result with
  | error fault =>
    have failed := (Attempt.andThen_of_error (fun t () => Attempt.done t true) begun).1
    rw [← started] at failed
    cases order.result.symm.trans (rest.order_fails h.queue failed)
  | ok answer =>
    let x := (s.beginRun (.entered .running)).state
    have gives : (s.dispatch (.command .startRun)).Gives true x := by
      rw [started]
      exact Attempt.Gives.andThen ⟨begun, rfl⟩ (Attempt.gives_done _ _ _)
    have steady : x.Steady := by
      rcases rest.dispatch (.command .startRun) with kept | ⟨-, ⟨fault, failed⟩, -⟩
      · exact gives.state ▸ kept
      · cases gives.result.symm.trans failed
    rw [← started, gives.result, gives.state] at turn
    have outbox : x.outbox = told := by rw [turn.outbox, h.outbox, List.nil_append]
    obtain ⟨found, queue⟩ := turn.queue
    rw [h.queue, List.nil_append] at queue
    have answerable : ∀ amount ∈ found, Answerable amount := by
      by_contra bad
      push Not at bad
      cases order.result.symm.trans
        (rest.order_stops h.queue gives (runQueue_pickUps_fails queue bad))
    obtain ⟨result, state⟩ := rest.order_gives h.queue gives (runQueue_pickUps queue answerable)
    obtain ⟨more, credited, ofWallet⟩ := x.credited_told found
    rw [outbox] at credited
    exact ⟨x, told, more, found, turn, steady, order.state.symm.trans state,
      (Except.ok.inj (order.result.symm.trans result)).trans credited, ofWallet⟩

/-- A run that is ordered in the shop tells of its start, and of its first tick. -/
theorem Between.order_start_told (h : s.Between level) (order : (s.order .startRun).Gives events t) :
    t.Steady ∧ t.Clear ∧ ∃ outcome, RunTold events outcome t := by
  obtain ⟨x, told, more, found, turn, steady, rfl, rfl, ofWallet⟩ := h.order_start_inv order
  refine ⟨steady.congr rfl rfl rfl rfl rfl, x.cleared_clear found, ?_⟩
  cases turn with
  | @began interpreter ran _ buying fresh runs =>
    have start : RunTold [.phaseChanged .running] none (s.atStart interpreter) :=
      ⟨rfl, rfl, rfl, nofun⟩
    obtain ⟨outcome, told⟩ := start.runs runs
    exact ⟨outcome, told.unspoken (fun e mem => .inr (ofWallet e mem)) rfl rfl⟩

/-- The order to start a run, and so many frames after it. -/
def runMoves (pace : ScriptSettings) (k : Nat) : List Move :=
  .submit (.command .startRun) :: .update 0.0 :: List.replicate k (.update pace.frameDt)

/-- A run that began in `s` is over after `k` frames or is given up then.  This is its record, and
the session after it. -/
inductive Concluded (s : Session) (pace : ScriptSettings) (k number : Nat) :
    RunRecord → Session → Prop where
  | completed {outcome : Outcome}
      (told : RunTold (s.emitted (runMoves pace k)) (some outcome) (s.after (runMoves pace k))) :
      Concluded s pace k number
        (.ofSession number (s.after (runMoves pace k)) (.completed outcome))
        (s.after (runMoves pace k))
  | timedOut (told : RunTold (s.emitted (runMoves pace k)) none (s.after (runMoves pace k))) :
      Concluded s pace k number
        (.ofSession number (s.after (runMoves pace k)) .timedOut)
        ((s.after (runMoves pace k)).after [.submit (.command .resetToBuying), .update 0.0])

theorem Concluded.run {k : Nat} (h : s.Concluded pace k number record u) : record.run = number := by
  cases h with
  | completed told => rfl
  | timedOut told => rfl

/-- **A run of a script** is recorded with the outcome that it has told itself. -/
theorem Between.concluded (h : s.Between level)
    (played : (s.playRun pace frames number).Gives record u) :
    ∃ k, s.Concluded pace k number record u := by
  obtain ⟨events, t, order, rest⟩ := played.of_andThen
  obtain ⟨waited, x, loop, last⟩ := rest.of_andThen
  obtain ⟨steady, clear, outcome, started⟩ := h.order_start_told order
  obtain ⟨k, outcome, same, told⟩ := started.passFrames steady clear loop
  refine ⟨k, ?_⟩
  have after : x = s.after (runMoves pace k) := by
    rw [same, ← order.state]
    rfl
  have emitted : events ++ t.emitted (List.replicate k (.update pace.frameDt)) =
      s.emitted (runMoves pace k) := by
    rw [← order.state]
    show _ = (s.order .startRun).result.toOption.getD [] ++ _
    rw [order.result]
    rfl
  rw [emitted] at told
  have running := told.running
  cases outcome with
  | some outcome =>
    rw [if_neg (show ¬x.running = true by simp [running]), told.last outcome rfl] at last
    obtain rfl := last.state
    obtain rfl := Except.ok.inj last.result
    rw [after] at told ⊢
    exact .completed told
  | none =>
    rw [if_pos (show x.running = true from running)] at last
    have last : ((x.order .resetToBuying).andThen fun s _ =>
      .done s (RunRecord.ofSession number x .timedOut)).Gives record u := ⟨last.result, last.state⟩
    obtain ⟨events', u', reset, kept⟩ := last.of_andThen
    obtain rfl : u' = u := kept.state
    obtain rfl := Except.ok.inj kept.result
    rw [← reset.state]
    rw [after] at told ⊢
    exact .timedOut told

/-! ## The steps are no part of the pace -/

section
variable (steps : List Step)

theorem passFrames_steps (s : Session) (waited : Float) (past : List Entry) :
    s.passFrames { pace with steps } frames waited past = s.passFrames pace frames waited past := by
  induction frames generalizing s waited past with
  | zero => rfl
  | succ n ih => simp only [passFrames, ih]

theorem playRun_steps (s : Session) :
    s.playRun { pace with steps } frames number = s.playRun pace frames number := by
  simp only [playRun, passFrames_steps]

end

end Session

/-! ## Playthroughs -/

namespace Playthrough

variable {level : Level} {pace : ScriptSettings} {frames : Nat} {p q : Playthrough} {step : Step}
  {steps : List Step}

theorem perform_steps (others : List Step) :
    p.perform { pace with steps := others } frames step = p.perform pace frames step := by
  by_cases run : step.action = .run
  · rw [perform_of_run run, perform_of_run run, Session.playRun_steps]
  · obtain ⟨action, instruction, index, amount, seconds, has⟩ := step
    cases action with
    | run => exact absurd rfl run
    | _ => rfl

theorem performAll_steps (others : List Step) :
    p.performAll { pace with steps := others } frames steps = p.performAll pace frames steps := by
  induction steps generalizing p with
  | nil => rfl
  | cons step steps ih => simp only [performAll, perform_steps, ih]

/-- The steps of a script that are not waited. -/
def unwaited (steps : List Step) : List Step := steps.filter (·.action ≠ .wait)

section
variable (h : p.session.Between level) (distinct : level.layout.Distinct)
  (positive : ∀ gear ∈ level.layout, 0 < gear.2)
include h distinct positive

/-- **Run lemma.**  A script without its pauses is the same script. -/
theorem performAll_unwaited :
    p.performAll pace frames (unwaited steps) = p.performAll pace frames steps := by
  induction steps generalizing p with
  | nil => rfl
  | cons step steps ih =>
    by_cases wait : step.action = .wait
    · have dropped : unwaited (step :: steps) = unwaited steps :=
        List.filter_cons_of_neg (by simp [wait])
      rw [dropped, ih h, performAll, perform_of_wait h wait]
      rfl
    · have kept : unwaited (step :: steps) = step :: unwaited steps :=
        List.filter_cons_of_pos (by simp [wait])
      rw [kept]
      refine Attempt.andThen_congr fun _ performed => ?_
      exact ih (perform_inv h distinct positive ⟨performed, rfl⟩).1

/-- The records are numbered in order. -/
theorem performAll_numbered (numbered : p.records.map (·.run) = List.range p.records.length)
    (done : (p.performAll pace frames steps).Gives () q) :
    q.records.map (·.run) = List.range q.records.length := by
  induction steps generalizing p with
  | nil => exact done.state ▸ numbered
  | cons step steps ih =>
    obtain ⟨⟨⟩, m, first, others⟩ := done.of_andThen
    obtain ⟨between, unrecorded, recorded⟩ := perform_inv h distinct positive first
    refine ih between ?_ others
    by_cases run : step.action = .run
    · obtain ⟨record, kept, played⟩ := recorded run
      obtain ⟨k, concluded⟩ := h.concluded played
      rw [kept, List.map_append, numbered, List.length_append, List.length_singleton, List.range_succ,
        List.map_singleton, concluded.run]
    · rw [unrecorded run]
      exact numbered

/-- Each run of a script, with its record. -/
theorem concluded_at {before after : List Step} (new : p.records = [])
    (done : (p.performAll pace frames (before ++ step :: after)).Gives () q)
    (run : step.action = .run) :
    let number := before.countP (·.action = .run)
    ∃ m m' record k, (p.performAll pace frames before).Gives () m ∧
      (m.perform pace frames step).Gives () m' ∧ q.records[number]? = some record ∧
      m.session.Concluded pace k number record m'.session := by
  intro number
  obtain ⟨m, reached, rest⟩ := performAll_append done
  obtain ⟨⟨⟩, m', performed, others⟩ := rest.of_andThen
  obtain ⟨between, earlier, records, count⟩ := performAll_inv h distinct positive reached
  obtain ⟨between', -, recorded⟩ := perform_inv between distinct positive performed
  obtain ⟨-, later, records', -⟩ := performAll_inv between' distinct positive others
  obtain ⟨record, kept, played⟩ := recorded run
  obtain ⟨k, concluded⟩ := between.concluded played
  have length : m.records.length = number := by rw [records, new, List.nil_append, count]
  rw [length] at concluded
  refine ⟨m, m', record, k, reached, performed, ?_, concluded⟩
  rw [records', kept, ← length]
  simp

end

end Playthrough

/-! ## Scripts -/

/-- The same settings with a script that does not wait. -/
def Settings.unwaited (settings : Settings) : Settings :=
  { settings with
    script := { settings.script with steps := Playthrough.unwaited settings.script.steps } }

theorem playScript_unwaited {settings : Settings} {game : Playthrough}
    (opened : (openGame settings).result = .ok game) (frames : Nat) :
    playScript frames settings.unwaited = playScript frames settings := by
  obtain ⟨level, laid_out, between, -⟩ := openGame_inv opened
  obtain ⟨distinct, positive⟩ := Level.ofSettings?_layout laid_out
  have same : openGame settings.unwaited = openGame settings := rfl
  unfold playScript
  rw [same]
  refine Attempt.andThen_congr fun p begun => ?_
  obtain rfl := Except.ok.inj (opened.symm.trans begun)
  have steps : game.performAll settings.unwaited.script frames settings.unwaited.script.steps =
      game.performAll settings.script frames settings.script.steps :=
    (Playthrough.performAll_steps _).trans (Playthrough.performAll_unwaited between distinct positive)
  rw [steps]

/-- **Runs are sealed**, and the other steps are safe just if their commands are answered.  In the
game of some settings, whatever its script has done without a fault, the shop is open, and nothing
is queued or left to be told.  A step that runs nothing goes through, whatever it asks for, unless
its command is refused for a number of too many digits, which stops it.  To wait does nothing at
all, so a script that does not wait plays the same.  The records are numbered in order, one for each
step that runs the program, and each is concluded from what this run has told. -/
theorem steps_safe_iff_answered {settings : Settings} {game : Playthrough}
    (opened : (openGame settings).result = .ok game) (frames : Nat) :
    let pace := settings.script
    (∀ steps p, (game.performAll pace frames steps).Gives () p →
      p.session.phases.phase = .buying ∧ p.session.queue = [] ∧ p.session.outbox = [] ∧
      (∀ step : Step, step.action ≠ .run →
        ((∃ q, (p.perform pace frames step).Gives () q ∧ q.records = p.records) ↔ p.Answers step) ∧
        (¬p.Answers step → (p.perform pace frames step).result = .error .numberTooLong)) ∧
      (∀ step : Step, step.action = .wait → p.perform pace frames step = .done p ()) ∧
      p.records.map (·.run) = List.range (steps.countP (·.action = .run)) ∧
      ∀ before step after, steps = before ++ step :: after → step.action = .run →
        let number := before.countP (·.action = .run)
        ∃ q q' record k, (game.performAll pace frames before).Gives () q ∧
          (q.perform pace frames step).Gives () q' ∧ p.records[number]? = some record ∧
          q.session.Concluded pace k number record q'.session) ∧
    (∀ p, (playScript frames settings).result = .ok p →
      (game.performAll pace frames pace.steps).Gives () p) ∧
    playScript frames settings.unwaited = playScript frames settings := by
  intro pace
  obtain ⟨level, laid_out, between, new⟩ := openGame_inv opened
  obtain ⟨distinct, positive⟩ := Level.ofSettings?_layout laid_out
  refine ⟨fun steps p done => ?_, fun p played => ?_, playScript_unwaited opened frames⟩
  · obtain ⟨shop, more, records, count⟩ := Playthrough.performAll_inv between distinct positive done
    rw [new, List.nil_append] at records
    have numbered : p.records.map (·.run) = List.range p.records.length :=
      Playthrough.performAll_numbered between distinct positive (by rw [new]; rfl) done
    refine ⟨by rw [shop.entered]; rfl, shop.queue, shop.outbox, fun step other => ⟨⟨?_, ?_⟩, ?_⟩,
      fun step wait => Playthrough.perform_of_wait shop wait, ?_, ?_⟩
    · rintro ⟨q, gives, -⟩
      exact Playthrough.answers_of_perform shop gives
    · intro answered
      obtain ⟨s, -, gives⟩ := Playthrough.perform_of_not_run shop other answered
      exact ⟨_, gives pace frames, rfl⟩
    · exact Playthrough.perform_of_unanswered shop
    · rw [numbered, records, count]
    · rintro before step after rfl run
      exact Playthrough.concluded_at between distinct positive new done run
  · obtain ⟨game', opened', done⟩ := playScript_inv played
    obtain rfl := Except.ok.inj (opened.symm.trans opened')
    exact done

/-- Settings whose script runs an empty program, adds to it, waits for an undefined time and runs it
again, with time for a single frame. -/
def successThenTimeout : Value :=
  let step (name : String) : Value := .record [("action", .text name)]
  let add : Value := .record [("action", .text "add"), ("instruction", .text "move_forward")]
  let wait : Value := .record [("action", .text "wait"), ("seconds", .float (0.0 / 0.0))]
  .record [("script", .record [("frame_dt", .float 0.01), ("max_run_seconds", .float 0.01),
    ("steps", .list [step "run", add, wait, step "run"])])]

/-- The second run is recorded as a timeout, although the last outcome of the session is the success
of the first. -/
theorem steps_safe_success_then_timeout :
    ∃ settings game p, Settings.ofDocument? successThenTimeout = .ok settings ∧
      (openGame settings).result = .ok game ∧ (playScript 2 settings).result = .ok p ∧
      p.session.lastOutcome = some .success ∧ p.session.outbox = [] ∧
      p.records.map (·.run) = [0, 1] ∧ (p.records.map (·.ending)) = [.completed .success, .timedOut] ∧
      playScript 2 settings.unwaited = playScript 2 settings := by
  have evaluated : (Settings.ofDocument? successThenTimeout).toOption.any (fun settings =>
      settings.script.steps.countP (·.action = .run) = 2 ∧
      (openGame settings).result.toOption.any (fun _ => true) ∧
      (playScript 2 settings).result.toOption.any (fun p =>
        p.session.lastOutcome = some .success ∧
        p.records.map (·.ending) = [.completed .success, .timedOut])) = true := by
    decide +kernel
  obtain ⟨settings, accepted, found⟩ := of_any_toOption evaluated
  simp only [Bool.decide_and, Bool.and_eq_true, decide_eq_true_eq] at found
  obtain ⟨runs, opens, plays⟩ := found
  obtain ⟨game, opened, -⟩ := of_any_toOption opens
  obtain ⟨p, played, found⟩ := of_any_toOption plays
  simp only [Bool.and_eq_true, decide_eq_true_eq] at found
  obtain ⟨last, endings⟩ := found
  obtain ⟨sealed, whole, unwaited⟩ := steps_safe_iff_answered opened 2
  obtain ⟨-, -, outbox, -, -, numbers, -⟩ := sealed _ p (whole p played)
  rw [runs] at numbers
  exact ⟨settings, game, p, accepted, opened, played, last, outbox, numbers, endings, unwaited⟩

/-- Settings whose script picks up a debt of 4301 digits. -/
def debtStep : Value :=
  .record [("script", .record [("steps", .list [.record
    [("action", .text "pickup"), ("amount", .integer (-Nat.pow 10 mostWrittenDigits))]])])]

/-- They are accepted, and the step is stopped. -/
theorem debt_step_stopped :
    ∃ settings game step, Settings.ofDocument? debtStep = .ok settings ∧
      (openGame settings).result = .ok game ∧ settings.script.steps = [step] ∧ step.action = .pickUp ∧
      (game.perform settings.script 0 step).result = .error .numberTooLong := by
  have evaluated : (Settings.ofDocument? debtStep).toOption.any (fun settings =>
      (openGame settings).result.toOption.any fun game =>
        settings.script.steps.length = 1 ∧ ∀ step ∈ settings.script.steps, step.action = .pickUp ∧
          (game.perform settings.script 0 step).result = .error .numberTooLong) = true := by
    decide +kernel
  obtain ⟨settings, accepted, found⟩ := of_any_toOption evaluated
  obtain ⟨game, opened, found⟩ := of_any_toOption found
  obtain ⟨single, all⟩ := of_decide_eq_true found
  obtain ⟨step, steps⟩ := List.length_eq_one_iff.mp single
  obtain ⟨pickUp, stopped⟩ := all step (steps ▸ List.mem_singleton.mpr rfl)
  exact ⟨settings, game, step, accepted, opened, steps, pickUp, stopped⟩

end RobotWorkshop
