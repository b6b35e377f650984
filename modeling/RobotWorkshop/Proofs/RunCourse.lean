import RobotWorkshop.Proofs.Turns

/-!
The course of a run, from its start to its end.  Of a program of `n` instructions, a tick clock of
period `D` and a bomb of duration `B`, once frames of `T` nanoseconds have passed

    the run goes on, with T / D + 1 instructions executed      while T < min (n D) B
    it ends in success, with n of them, at n D                 if n D < B
    it ends in failure, with those before B, at B              if B ≤ n D

whatever else is asked for meanwhile, except to give it up (`Session.run_course`).  The proof is a
step lemma for one move (`Underway.perform`) and an induction on the moves (`Underway.after`).
-/

namespace RobotWorkshop

/-- What decides the course of a run. -/
structure Course where
  program : Program
  /-- Where the robot starts. -/
  origin : Pose
  /-- Nanoseconds from one tick to the next. -/
  tick : Int
  /-- Nanoseconds until the bomb goes off. -/
  bomb : Int

/-- Nanoseconds until the run is over. -/
def Course.finish (c : Course) : Int := min (c.program.length * c.tick) c.bomb

namespace Session

/-! ## Moves that take time -/

/-- The move takes so many nanoseconds of frames and does not ask for the run to be given up. -/
inductive Move.Takes : Move → Int → Prop where
  | submit {item : Submission} (unreset : item ≠ .command .resetToBuying) : Takes (.submit item) 0
  | dispatch {item : Submission} (unreset : item ≠ .command .resetToBuying) : Takes (.dispatch item) 0
  | update {seconds : Float} {dt : Int} (nanos : Nanos.ofSeconds? seconds = .ok dt)
      (nonneg : 0 ≤ dt) : Takes (.update seconds) dt
  | drain : Takes .drain 0
  | setControls {controls : Controls} : Takes (.setControls controls) 0

/-- The moves take so many nanoseconds together. -/
inductive Lasting : List Move → Int → Prop where
  | nil : Lasting [] 0
  | cons {m : Move} {moves : List Move} {dt time : Int} (first : m.Takes dt)
      (rest : Lasting moves time) : Lasting (m :: moves) (dt + time)

theorem Move.Takes.nonneg {m : Move} {dt : Int} (h : m.Takes dt) : 0 ≤ dt := by
  cases h with
  | update nanos nonneg => exact nonneg
  | _ => exact Int.le_refl 0

theorem Lasting.nonneg {moves : List Move} {time : Int} (h : Lasting moves time) : 0 ≤ time := by
  induction h with
  | nil => exact Int.le_refl 0
  | cons first rest ih =>
    have := first.nonneg
    omega

/-! ## Along a course -/

/-- What the session shows agrees with the counter.  Of the run's ticks those in `told` have been
handed over, behind the ones of earlier runs, and the others are in the outbox. -/
structure Follows (c : Course) (earlier told : List Event) (s : Session) : Prop where
  program : s.holdings.program = c.program
  pose : s.pose = (c.program.sequence.take s.interpreter.pc).foldl Pose.execute c.origin
  unreset : .command .resetToBuying ∉ s.queue
  ticks_told : (told ++ s.outbox).filter Event.ofTick =
    earlier ++ c.program.ticksFrom 0 s.interpreter.pc

/-- The session is in a run of this course. -/
structure Underway (c : Course) (earlier told : List Event) (s : Session) : Prop extends
    Follows c earlier told s where
  inRun : ∃ ticks bomb, s.InRun ticks bomb ∧ ticks.duration = c.tick ∧ bomb.duration = c.bomb

/-- The run of this course is over. -/
structure Over (c : Course) (earlier told : List Event) (outcome : Outcome) (count : Nat) (time : Int)
    (s : Session) : Prop where
  buying : s.phases.phase = .buying
  lastOutcome : s.lastOutcome = some outcome
  ticks : s.ticks = count
  elapsed : s.runElapsed = time
  pose : s.pose = (c.program.sequence.take count).foldl Pose.execute c.origin
  ticks_told : (told ++ s.outbox).filter Event.ofTick = earlier ++ c.program.ticksFrom 0 count
  announced : [.runCompleted outcome count, .phaseChanged .buying] <:+ s.outbox

variable {c : Course} {earlier told : List Event} {s : Session}

namespace Follows

theorem amid (h : Follows c earlier told s) {d : Surroundings} {money : List Event}
    (unreset : .command .resetToBuying ∉ d.queue) (outbox : d.outbox = s.outbox ++ money)
    (ofWallet : ∀ e ∈ money, e.ofWallet = true) : Follows c earlier told (s.amid d) where
  program := h.program
  pose := h.pose
  unreset := unreset
  ticks_told := by
    show (told ++ d.outbox).filter Event.ofTick = _
    rw [outbox, ← List.append_assoc, List.filter_append, filter_ofTick_of_ofWallet ofWallet,
      List.append_nil]
    exact h.ticks_told

/-- More instructions. -/
theorem executed (h : Follows c earlier told s) {n : Nat}
    (fit : s.interpreter.pc + n ≤ s.holdings.program.length) :
    Follows c earlier told (s.executed n) := by
  obtain ⟨pc, -⟩ := executed_counters fit
  obtain ⟨found, same⟩ := s.executed_amid n
  have surroundings := congrArg Session.surroundings (same s.surroundings)
  have queue : (s.executed n).queue = s.queue ++ pickUps found :=
    congrArg Surroundings.queue surroundings
  have outbox : (s.executed n).outbox =
      s.outbox ++ s.holdings.program.ticksFrom s.interpreter.pc n :=
    congrArg Surroundings.outbox surroundings
  constructor
  · rw [executed_holdings]
    exact h.program
  · rw [pc, executed_pose, h.program, h.pose, List.take_add, List.foldl_append]
  · rw [queue]
    intro mem
    rcases List.mem_append.mp mem with mem | mem
    · exact h.unreset mem
    · exact reset_not_mem_pickUps found mem
  · rw [pc, outbox, ← List.append_assoc, List.filter_append, h.ticks_told, h.program,
      List.filter_eq_self.mpr (c.program.ofTick_ticksFrom _ n), List.append_assoc,
      Program.ticksFrom_add, Nat.zero_add]

/-- More instructions, and the end. -/
theorem ended (h : Follows c earlier told s) {n count : Nat}
    (fit : s.interpreter.pc + n ≤ s.holdings.program.length) (counted : s.interpreter.pc = s.ticks)
    (all : s.interpreter.pc + n = count) (outcome : Outcome) (time : Int) :
    Over c earlier told outcome count time ((s.executed n).ended outcome time) := by
  obtain ⟨pc, ticks⟩ := executed_counters fit
  have follows := h.executed fit
  have ticks_eq : (s.executed n).ticks = count := by omega
  have pc_eq : (s.executed n).interpreter.pc = count := pc.trans all
  exact {
    buying := rfl
    lastOutcome := rfl
    ticks := ticks_eq
    elapsed := rfl
    pose := pc_eq ▸ follows.pose
    ticks_told := by
      have silent : [Event.runCompleted outcome (s.executed n).ticks, .phaseChanged .buying].filter
          Event.ofTick = [] := rfl
      show (told ++ ((s.executed n).outbox ++ _)).filter Event.ofTick = _
      rw [← List.append_assoc, List.filter_append, silent, List.append_nil, follows.ticks_told, pc_eq]
    announced := ticks_eq ▸ List.suffix_append _ _ }

end Follows

namespace Underway

theorem running (h : Underway c earlier told s) : s.running = true := by
  obtain ⟨ticks, bomb, run, -⟩ := h.inRun
  exact run.running

theorem amid (h : Underway c earlier told s) {d : Surroundings} {money : List Event}
    (unreset : .command .resetToBuying ∉ d.queue) (outbox : d.outbox = s.outbox ++ money)
    (ofWallet : ∀ e ∈ money, e.ofWallet = true) : Underway c earlier told (s.amid d) := by
  obtain ⟨ticks, bomb, run, periods⟩ := h.inRun
  exact ⟨h.toFollows.amid unreset outbox ofWallet, ticks, bomb, run.congr rfl rfl rfl rfl rfl, periods⟩

/-- The outbox is handed over. -/
theorem drained (h : Underway c earlier told s) :
    Underway c earlier (told ++ s.outbox) { s with outbox := [] } := by
  obtain ⟨ticks, bomb, run, periods⟩ := h.inRun
  refine ⟨⟨h.program, h.pose, h.unreset, ?_⟩, ticks, bomb, run.congr rfl rfl rfl rfl rfl, periods⟩
  rw [List.append_nil]
  exact h.ticks_told

/-! ## Frames -/

/-- A frame in which the run goes on. -/
theorem goneOn (h : Underway c earlier told s) {ticks bomb : Timer} (run : s.InRun ticks bomb)
    (tick_eq : ticks.duration = c.tick) (bomb_eq : bomb.duration = c.bomb) {t : Int}
    (later : s.runElapsed ≤ t) (before : t < c.finish) :
    s.runUntil ticks bomb t = s.goneOn ticks bomb t ∧
      Underway c earlier told (s.goneOn ticks bomb t) := by
  have before_end : t < s.holdings.program.length * ticks.duration := by
    rw [h.program, tick_eq]
    exact lt_of_lt_of_le before (min_le_left _ _)
  have before_bomb : t < bomb.duration := by
    rw [bomb_eq]
    exact lt_of_lt_of_le before (min_le_right _ _)
  have fit : s.interpreter.pc + (t / ticks.duration + 1 - s.interpreter.pc).toNat ≤
      s.holdings.program.length := by
    have := Int.ediv_lt_of_lt_mul ticks.duration_pos before_end
    have := run.pc_le
    omega
  have follows := h.toFollows.executed fit
  exact ⟨runUntil_of_lt before_end before_bomb,
    ⟨follows.program, follows.pose, follows.unreset, follows.ticks_told⟩,
    _, _, run.goneOn_inRun later before_end before_bomb, tick_eq, bomb_eq⟩

theorem update (h : Underway c earlier told s) {seconds : Float} {dt : Int}
    (nanos : Nanos.ofSeconds? seconds = .ok dt) (nonneg : 0 ≤ dt)
    (before : s.runElapsed + dt < c.finish) :
    Underway c earlier (told ++ (s.update seconds).result.toOption.getD [])
        (s.update seconds).state ∧
      (s.update seconds).state.runElapsed = s.runElapsed + dt := by
  obtain ⟨ticks, bomb, run, tick_eq, bomb_eq⟩ := h.inRun
  obtain ⟨ran, state⟩ := run.runStage_gives nanos nonneg
  obtain ⟨going, gone⟩ := h.goneOn run tick_eq bomb_eq (by omega) before
  rw [going] at state
  rw [← state] at gone
  obtain ⟨d, money, worked, fewer, outbox, ofWallet⟩ := runQueue_amid gone.running gone.unreset
  have queued := gone.amid (fun mem => gone.unreset (fewer _ mem)) outbox ofWallet
  have elapsed : (s.runStage seconds).state.runQueue.state.runElapsed = s.runElapsed + dt := by
    rw [worked, state]
    rfl
  rw [← worked] at queued
  -- a command that is stopped by a fault leaves the events in the outbox
  cases queue : (s.runStage seconds).state.runQueue.result with
  | error fault =>
    obtain ⟨result, state'⟩ := update_of_queue_error ran queue
    rw [result, state']
    refine ⟨?_, elapsed⟩
    show Underway c earlier (told ++ []) _
    rw [List.append_nil]
    exact queued
  | ok answer =>
    obtain ⟨result, state'⟩ := update_of_ok ran queue
    rw [result, state']
    exact ⟨queued.drained, elapsed⟩

/-- The frame in which the run ends. -/
theorem ends (h : Underway c earlier told s) {seconds : Float} {dt : Int}
    (nanos : Nanos.ofSeconds? seconds = .ok dt) (nonneg : 0 ≤ dt)
    (finished : c.finish ≤ s.runElapsed + dt) :
    ∃ ended, (s.runStage seconds).Gives () ended ∧
      (c.program.length * c.tick < c.bomb →
        Over c earlier told .success c.program.length (c.program.length * c.tick) ended) ∧
      (c.bomb ≤ c.program.length * c.tick → ∃ count : Nat,
        (count : Int) = (c.bomb + c.tick - 1) / c.tick ∧
          Over c earlier told .failure count c.bomb ended) := by
  obtain ⟨ticks, bomb, run, tick_eq, bomb_eq⟩ := h.inRun
  refine ⟨_, run.runStage_gives nanos nonneg, ?_, ?_⟩
  · intro through
    have finish_eq : c.finish = c.program.length * c.tick := min_eq_left (by omega)
    have pc_le := run.pc_le
    rw [finish_eq] at finished
    rw [← tick_eq, ← h.program] at finished through ⊢
    rw [← bomb_eq] at through
    rw [runUntil_of_through finished through]
    exact h.toFollows.ended (by omega) run.pc_eq_ticks (by omega) _ _
  · intro not_through
    have finish_eq : c.finish = c.bomb := min_eq_right not_through
    have pc_le := run.pc_le
    rw [finish_eq] at finished
    rw [← tick_eq, ← h.program] at not_through
    rw [← bomb_eq] at finished not_through ⊢
    rw [runUntil_of_bomb finished not_through, ← tick_eq]
    obtain ⟨le_total, total_le⟩ := run.ticksBefore_bounds not_through
    refine ⟨(ticksBefore ticks.duration bomb.duration).toNat, ?_, ?_⟩
    · show _ = ticksBefore ticks.duration bomb.duration
      omega
    · exact h.toFollows.ended (by omega) run.pc_eq_ticks (by omega) _ _

theorem dispatch (h : Underway c earlier told s) {item : Submission}
    (unreset : item ≠ .command .resetToBuying) :
    Underway c earlier told (s.dispatch item).state ∧
      (s.dispatch item).state.runElapsed = s.runElapsed := by
  obtain ⟨d, money, state, queue, outbox, ofWallet⟩ := dispatch_amid h.running unreset
  rw [state]
  exact ⟨h.amid (by rw [queue]; exact h.unreset) outbox ofWallet, rfl⟩

/-- What can be seen of a run, by the time that has passed. -/
theorem shown (h : Underway c earlier told s) :
    s.phases.phase = .running ∧ s.interpreter.pc = s.ticks ∧
      (s.ticks : Int) = s.runElapsed / c.tick + 1 := by
  obtain ⟨ticks, bomb, run, tick_eq, -⟩ := h.inRun
  have counted := run.pc_eq_ticks
  have next := run.pc_eq_elapsed
  rw [tick_eq, counted] at next
  exact ⟨by simpa [Session.running, PhaseMachine.running] using run.running, counted, next⟩

/-! ## Moves -/

/-- **Step lemma.** -/
theorem perform (h : Underway c earlier told s) {m : Move} {dt : Int} (takes : m.Takes dt)
    (before : s.runElapsed + dt < c.finish) :
    Underway c earlier (told ++ (s.perform m).result.toOption.getD []) (s.perform m).state ∧
      (s.perform m).state.runElapsed = s.runElapsed + dt := by
  cases takes with
  | @submit item unreset =>
    have queued : .command .resetToBuying ∉ s.queue ++ [item] := by
      intro mem
      rcases List.mem_append.mp mem with mem | mem
      · exact h.unreset mem
      · exact unreset (List.mem_singleton.mp mem).symm
    refine ⟨?_, (Int.add_zero _).symm⟩
    show Underway c earlier (told ++ []) (s.submit item)
    rw [List.append_nil]
    exact h.amid (d := { s.surroundings with queue := s.queue ++ [item] }) queued
      (List.append_nil _).symm (by simp)
  | @dispatch item unreset =>
    obtain ⟨state, result⟩ := perform_dispatch s item
    have silent : ((s.perform (.dispatch item)).result.toOption.getD []) = [] := by
      rw [result]
      cases (s.dispatch item).result <;> rfl
    rw [silent, state, List.append_nil, Int.add_zero]
    exact h.dispatch unreset
  | update nanos nonneg => exact h.update nanos nonneg before
  | drain => exact ⟨h.drained, (Int.add_zero _).symm⟩
  | @setControls controls =>
    refine ⟨?_, (Int.add_zero _).symm⟩
    show Underway c earlier (told ++ []) { s with phases := { s.phases with controls } }
    rw [List.append_nil]
    obtain ⟨ticks, bomb, run, periods⟩ := h.inRun
    exact ⟨⟨h.program, h.pose, h.unreset, h.ticks_told⟩, ticks, bomb,
      run.congr rfl rfl rfl rfl rfl, periods⟩

/-- **Run lemma.** -/
theorem after (h : Underway c earlier told s) {moves : List Move} {time : Int}
    (lasting : Lasting moves time) (before : s.runElapsed + time < c.finish) :
    Underway c earlier (told ++ s.emitted moves) (s.after moves) ∧
      (s.after moves).runElapsed = s.runElapsed + time := by
  induction lasting generalizing s told with
  | nil =>
    rw [emitted, List.append_nil, Int.add_zero]
    exact ⟨h, rfl⟩
  | @cons m moves dt time first rest ih =>
    have later := rest.nonneg
    obtain ⟨step, elapsed⟩ := h.perform first (by omega)
    obtain ⟨run, total⟩ := ih step (by omega)
    rw [emitted, ← List.append_assoc]
    refine ⟨run, ?_⟩
    show ((s.perform m).state.after moves).runElapsed = _
    omega

end Underway

/-! ## From start to end -/

section
variable {tick bomb : Int}

/-- The course of a run that starts now. -/
def courseAhead (s : Session) (tick bomb : Int) : Course :=
  { program := s.holdings.program, origin := s.level.start, tick, bomb }

/-- Before its first tick a run has nothing to show. -/
theorem armed_follows (clocked : s.holdings.Clocked tick bomb)
    (unreset : .command .resetToBuying ∉ s.queue) :
    Follows (s.courseAhead tick bomb) (s.outbox.filter Event.ofTick) []
      (s.armed (.fresh tick true clocked.tick_pos) (.fresh bomb false clocked.bomb_pos)) where
  program := rfl
  pose := rfl
  unreset := unreset
  ticks_told := by
    show (s.outbox ++ [Event.phaseChanged .running]).filter Event.ofTick = _
    rw [List.filter_append]
    rfl

/-- After its start a run is underway, and so it is after the rest of the queue. -/
theorem start_underway (clocked : s.holdings.Clocked tick bomb) (buying : s.running = false)
    (active : s.phases.controls.runActive = true) (unreset : .command .resetToBuying ∉ s.queue)
    (nonempty : 0 < s.holdings.program.length) :
    (s.dispatch (.command .startRun)).result = .ok true ∧
    ∀ first, first = (s.dispatch (.command .startRun)).state ∨
        first = (s.dispatch (.command .startRun)).state.runQueue.state →
      Underway (s.courseAhead tick bomb) (s.outbox.filter Event.ofTick) [] first ∧
        first.runElapsed = 0 := by
  obtain ⟨result, state⟩ : (s.dispatch (.command .startRun)).Gives true _ := by
    rw [dispatch_start buying active]
    exact (beginRun_gives clocked nonempty).andThen (Attempt.gives_done _ _ _)
  have start : Underway (s.courseAhead tick bomb) (s.outbox.filter Event.ofTick) []
      (s.dispatch (.command .startRun)).state := by
    rw [state]
    exact ⟨(armed_follows clocked unreset).executed (n := 1) nonempty, _, _,
      armed_inRun clocked nonempty, rfl, rfl⟩
  have elapsed : (s.dispatch (.command .startRun)).state.runElapsed = 0 := by
    rw [state, executed_runElapsed]
    rfl
  refine ⟨result, ?_⟩
  rintro first (rfl | rfl)
  · exact ⟨start, elapsed⟩
  · obtain ⟨d, money, worked, fewer, outbox, ofWallet⟩ := runQueue_amid start.running start.unreset
    rw [worked]
    exact ⟨start.amid (fun mem => start.unreset (fewer _ mem)) outbox ofWallet, elapsed⟩

/-- Without instructions a run is over with its start. -/
theorem start_over (clocked : s.holdings.Clocked tick bomb) (buying : s.running = false)
    (active : s.phases.controls.runActive = true) (unreset : .command .resetToBuying ∉ s.queue)
    (empty : s.holdings.program.length = 0) :
    (s.dispatch (.command .startRun)).result = .ok true ∧
    Over (s.courseAhead tick bomb) (s.outbox.filter Event.ofTick) [] .success 0 0
      (s.dispatch (.command .startRun)).state ∧
    (s.dispatch (.command .startRun)).state.outbox = s.outbox ++
      [.phaseChanged .running, .runCompleted .success 0, .phaseChanged .buying] := by
  obtain ⟨result, state⟩ : (s.dispatch (.command .startRun)).Gives true _ := by
    rw [dispatch_start buying active]
    exact (beginRun_gives_of_empty clocked empty).andThen (Attempt.gives_done _ _ _)
  rw [state]
  refine ⟨result, (armed_follows clocked unreset).ended (n := 0) (Nat.zero_le _) rfl rfl .success 0, ?_⟩
  show (s.outbox ++ [Event.phaseChanged .running]) ++ _ = _
  rw [List.append_assoc]
  rfl

end

/-- **The course of a run**, from a start that is not refused and whose clocks can be made.  The
start may be the last that happened (`started.state`) or be followed by the rest of the queue
(`started.state.runQueue.state`).  A run of no instructions is over at once.  Any other goes on
while the frames are shorter, together, than the program and the bomb, and ends in the first frame
in which they are not; `ended` is the session at the end of the run stage of that frame, before its
queue.  The rest of the frame works the queue off from there, and hands over what the run has told
and what comes of the queue behind it. -/
theorem run_course {s : Session} {tick bomb : Int} (buying : s.running = false)
    (active : s.phases.controls.runActive = true) (clocked : s.holdings.Clocked tick bomb)
    (unreset : .command .resetToBuying ∉ s.queue) :
    let p := s.holdings.program
    let c := s.courseAhead tick bomb
    let earlier := s.outbox.filter Event.ofTick
    let started := s.dispatch (.command .startRun)
    started.result = .ok true ∧
    (p.length = 0 → Over c earlier [] .success 0 0 started.state ∧
      started.state.outbox = s.outbox ++
        [.phaseChanged .running, .runCompleted .success 0, .phaseChanged .buying]) ∧
    (0 < p.length → ∀ first, first = started.state ∨ first = started.state.runQueue.state →
      ∀ moves time, Lasting moves time → time < min (p.length * tick) bomb →
      let now := first.after moves
      let told := first.emitted moves
      (now.phases.phase = .running ∧ now.interpreter.pc = now.ticks ∧
        (now.ticks : Int) = time / tick + 1 ∧ now.runElapsed = time ∧
        now.pose = (p.sequence.take now.ticks).foldl Pose.execute s.level.start ∧
        (told ++ now.outbox).filter Event.ofTick = earlier ++ p.ticksFrom 0 now.ticks) ∧
      ∀ seconds dt, Nanos.ofSeconds? seconds = .ok dt → 0 ≤ dt →
        min (p.length * tick) bomb ≤ time + dt →
        ∃ ended, (now.runStage seconds).Gives () ended ∧
          (p.length * tick < bomb →
            Over c earlier told .success p.length (p.length * tick) ended) ∧
          (bomb ≤ p.length * tick → ∃ count : Nat, (count : Int) = (bomb + tick - 1) / tick ∧
            Over c earlier told .failure count bomb ended) ∧
          ended.outbox <+: ended.runQueue.state.outbox ∧
          (ended.runQueue.result = .ok () →
            (now.update seconds).Gives ended.runQueue.state.outbox ended.runQueue.state.drain.2) ∧
          ∀ fault, ended.runQueue.result = .error fault →
            (now.update seconds).result = .error fault ∧
              (now.update seconds).state = ended.runQueue.state) := by
  intro p c earlier started
  rcases Nat.eq_zero_or_pos p.length with empty | nonempty
  · obtain ⟨result, over_at_once⟩ := start_over clocked buying active unreset empty
    exact ⟨result, fun _ => over_at_once, fun nonempty => absurd empty (by omega)⟩
  · obtain ⟨result, underway⟩ := start_underway clocked buying active unreset nonempty
    refine ⟨result, fun empty => absurd empty (by omega), ?_⟩
    intro _ first which moves time lasting before now told
    obtain ⟨start, elapsed⟩ := underway first which
    obtain ⟨run, total⟩ := start.after lasting (by rw [elapsed, Int.zero_add]; exact before)
    rw [elapsed, Int.zero_add] at total
    rw [List.nil_append] at run
    obtain ⟨phase, counted, next⟩ := run.shown
    rw [total] at next
    constructor
    · refine ⟨phase, counted, next, total, ?_, ?_⟩
      · rw [← counted]
        exact run.pose
      · rw [← counted]
        exact run.ticks_told
    · intro seconds dt nanos nonneg finished
      obtain ⟨ended, ran, success, failure⟩ := run.ends nanos nonneg (by rw [total]; exact finished)
      obtain rfl := ran.state
      exact ⟨_, ran, success, failure, runQueue_outbox _, update_of_ok ran.result,
        fun fault => update_of_queue_error ran.result⟩

theorem run_course_two_steps :
    let s := Session.new .twoSteps {}
    let moves : List Move := [.submit (.command (.pickUp 3)), .update 0.15]
    let first := (s.dispatch (.command .startRun)).state
    s.holdings.Clocked 100000000 10000000000 ∧ Lasting moves 150000000 ∧
      ((first.after moves).ticks : Int) = 150000000 / 100000000 + 1 ∧
      ∃ ended, ((first.after moves).runStage 0.05).Gives () ended ∧
        Over (s.courseAhead 100000000 10000000000) [] (first.emitted moves) .success 2
          ((2 : Nat) * 100000000) ended ∧
        ((first.after moves).update 0.05).Gives ended.runQueue.state.outbox
          ended.runQueue.state.drain.2 := by
  intro s moves first
  have clocked := Holdings.twoSteps_clocked
  have queued : (Move.submit (.command (.pickUp 3))).Takes 0 := .submit (by decide)
  have framed : (Move.update 0.15).Takes 150000000 := .update (by rfl) (by decide)
  have lasting : Lasting moves 150000000 := .cons queued (.cons framed .nil)
  obtain ⟨-, -, course⟩ := run_course (s := s) rfl rfl clocked (by simp [s, Session.new])
  obtain ⟨⟨-, -, ticks, -⟩, ends⟩ := course (by decide) first (.inl rfl) _ _ lasting (by decide)
  obtain ⟨ended, gives, success, -, -, frame, -⟩ := ends 0.05 50000000 (by rfl) (by decide) (by decide)
  have worked : ((first.after moves).runStage 0.05).state.runQueue.result = .ok () := by
    decide +kernel
  exact ⟨clocked, lasting, ticks, ended, gives, success (by decide), frame (gives.state ▸ worked)⟩

end Session

end RobotWorkshop
