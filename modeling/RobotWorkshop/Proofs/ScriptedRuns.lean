import RobotWorkshop.Proofs.RunCourse
import RobotWorkshop.Proofs.Harvest
import RobotWorkshop.Proofs.ScriptSteps

/-!
A run in a script, from the order to start it to its record.  Of a program of `n` instructions, a
tick clock of period `D` and a bomb of duration `B`, frames of `dt` nanoseconds leave behind

    after k of them, while k dt < min (n D) B    a run that goes on, k dt / D + 1 instructions executed
    from then on                                 one and the same session, whatever k and dt

(`Launched`, `Between.launch`).  A record is told by the session at the start of the run and by how
far the run came (`recorded`): the gears in it are those on the cells that the robot came to.
-/

namespace RobotWorkshop

/-! ## How a run ends -/

/-- How a run ends that is not given up. -/
def Course.outcome (c : Course) : Outcome :=
  if c.program.length * c.tick < c.bomb then .success else .failure

/-- The number of instructions that are executed in it. -/
def Course.count (c : Course) : Nat :=
  if c.program.length * c.tick < c.bomb then c.program.length else (ticksBefore c.tick c.bomb).toNat

theorem Course.ends_in_success {c : Course} (through : c.program.length * c.tick < c.bomb) :
    c.outcome = .success ∧ c.count = c.program.length ∧ c.finish = c.program.length * c.tick :=
  ⟨if_pos through, if_pos through, min_eq_left through.le⟩

theorem Course.ends_in_failure {c : Course} (not_through : c.bomb ≤ c.program.length * c.tick) :
    c.outcome = .failure ∧ c.count = (ticksBefore c.tick c.bomb).toNat ∧ c.finish = c.bomb :=
  ⟨if_neg (not_lt.mpr not_through), if_neg (not_lt.mpr not_through), min_eq_right not_through⟩

/-- The first instructions of a program, as they are told. -/
theorem Program.instructions_ticksFrom (p : Program) (n : Nat) :
    (p.ticksFrom 0 n).filterMap Event.instruction = p.sequence.take n := by
  unfold ticksFrom
  rw [List.filterMap_map, List.drop_zero]
  change (p.sequence.zipIdx.take n).filterMap (some ∘ Prod.fst) = _
  rw [List.filterMap_eq_map, List.map_take, List.zipIdx_map_fst]

/-- Gears of positive value are credited in full. -/
theorem Surroundings.credited_wallet (g : UpgradeGraph) (c : Surroundings) {amounts : List Int}
    (positive : ∀ amount ∈ amounts, 0 < amount) :
    (c.credited g amounts).wallet = ⟨c.wallet.balance + amounts.sum⟩ := by
  induction amounts generalizing c with
  | nil =>
    rw [List.sum_nil, Int.add_zero]
    rfl
  | cons amount rest ih =>
    have accepted : c.wallet.deposit? amount = .ok ⟨c.wallet.balance + amount⟩ :=
      if_neg (by have := positive amount List.mem_cons_self; omega)
    have first : (c.credit g amount).wallet = ⟨c.wallet.balance + amount⟩ := by
      unfold credit
      rw [accepted]
    have others := ih (c.credit g amount)
      fun other mem => positive other (List.mem_cons_of_mem _ mem)
    refine others.trans ?_
    rw [first, List.sum_cons, ← Int.add_assoc]

namespace Session

variable {level : Level} {s t w x : Session} {c : Course} {tick bomb time : Int} {count : Nat}

/-! ## How far a run came -/

/-- What a run that starts now has collected after so many instructions. -/
def harvest (s : Session) (count : Nat) : Int :=
  ∑ cell ∈ (s.level.start.path (s.holdings.program.sequence.take count)).toFinset,
    (s.level.layout.take cell).1

theorem harvest_zero (s : Session) : s.harvest 0 = 0 := rfl

/-- A run that began in `s` came to `t` after so many instructions and nanoseconds, and all that it
has collected is credited. -/
structure Ran (s : Session) (count : Nat) (time : Int) (t : Session) : Prop where
  ticks : t.ticks = count
  elapsed : t.runElapsed = time
  pose : t.pose = (s.holdings.program.sequence.take count).foldl Pose.execute s.level.start
  holdings : t.holdings = { s.holdings with wallet := ⟨s.holdings.wallet.balance + s.harvest count⟩ }
  start : t.level.start = s.level.start
  layout : t.level.layout = s.level.layout

/-- The record of a run that began in `s` and came so far. -/
def recorded (s : Session) (run : Nat) (ending : RunEnd) (count : Nat) (time : Int) : RunRecord :=
  { run
    ending
    ticks := count
    elapsed := time
    balance := s.holdings.wallet.balance + s.harvest count
    capacity := s.holdings.program.capacity
    programLength := s.holdings.program.length
    tickInterval := s.holdings.cpu.tickInterval
    multiplier := s.holdings.cpu.multiplier
    position := ((s.holdings.program.sequence.take count).foldl Pose.execute s.level.start).position }

theorem Ran.ofSession (h : Ran s count time t) (run : Nat) (ending : RunEnd) :
    RunRecord.ofSession run t ending = s.recorded run ending count time := by
  unfold RunRecord.ofSession recorded
  rw [h.ticks, h.elapsed, h.holdings, h.pose]

/-- The same, with what has been collected in the queue. -/
structure Collecting (s : Session) (count : Nat) (time : Int) (x : Session) : Prop where
  ticks : x.ticks = count
  elapsed : x.runElapsed = time
  pose : x.pose = (s.holdings.program.sequence.take count).foldl Pose.execute s.level.start
  holdings : x.holdings = s.holdings
  start : x.level.start = s.level.start
  layout : x.level.layout = s.level.layout
  queued : ∃ found, x.queue = pickUps found ∧ found.sum = s.harvest count ∧ ∀ value ∈ found, 0 < value

/-- What is in the queue, when it is looked at. -/
theorem Collecting.queue (h : Collecting s count time x) {found : List Int}
    (queue : x.queue = pickUps found) :
    found.sum = s.harvest count ∧ ∀ value ∈ found, 0 < value := by
  obtain ⟨found', queue', sum, positive⟩ := h.queued
  obtain rfl := pickUps_injective (queue.symm.trans queue')
  exact ⟨sum, positive⟩

theorem Collecting.ran (h : Collecting s count time x) {d : Surroundings}
    (credited : d.wallet = ⟨s.holdings.wallet.balance + s.harvest count⟩) :
    Ran s count time (x.amid d) where
  ticks := h.ticks
  elapsed := h.elapsed
  pose := h.pose
  holdings := by
    show { x.holdings with wallet := d.wallet } = _
    rw [h.holdings, credited]
  start := h.start
  layout := h.layout

theorem Collecting.clocked (h : Collecting s count 0 x) (clocks : Clocks) (time : Int) :
    Collecting s count time (x.clocked clocks time) :=
  ⟨h.ticks, rfl, h.pose, h.holdings, h.start, h.layout, h.queued⟩

theorem Collecting.ended (h : Collecting s count 0 x) (outcome : Outcome) (time : Int) :
    Collecting s count time (x.ended outcome time) :=
  ⟨h.ticks, rfl, h.pose, h.holdings, h.start, h.layout, h.queued⟩

section
variable (clocked : s.holdings.Clocked tick bomb) (queue : s.queue = [])
  (distinct : s.level.layout.Distinct) (positive : ∀ gear ∈ s.level.layout, 0 < gear.2)
include queue distinct positive

/-- The first instructions of a run. -/
theorem executed_collecting {ticks bomb : Timer} {n : Nat} (fit : n ≤ s.holdings.program.length) :
    Collecting s n 0 ((s.armed ticks bomb).executed n) := by
  have begun : Reaping s.level.start s.level.layout [] [] (s.armed ticks bomb) :=
    ⟨rfl, rfl, rfl, .start _⟩
  obtain ⟨found, queued, reaping⟩ := begun.executed distinct positive n
  have instructions : [] ++ ((s.armed ticks bomb).holdings.program.ticksFrom
      (s.armed ticks bomb).interpreter.pc n).filterMap Event.instruction =
      s.holdings.program.sequence.take n :=
    s.holdings.program.instructions_ticksFrom n
  rw [instructions, List.nil_append] at reaping
  have values := reaping.reaped.found
  constructor
  · exact (executed_counters (s := s.armed ticks bomb) (n := n)
      ((Nat.zero_add n).symm ▸ fit)).2.trans (Nat.zero_add n)
  · exact executed_runElapsed _ n
  · exact reaping.pose_eq
  · exact executed_holdings _ n
  · exact reaping.start_eq
  · exact reaping.layout_eq
  · refine ⟨found, ?_, ?_, ?_⟩
    · rw [queued]
      show s.queue ++ _ = _
      rw [queue, List.nil_append]
    · rw [values.sum_eq]
      exact Gears.sum_on distinct _
    · intro value mem
      obtain ⟨gear, on, rfl⟩ := List.mem_map.mp (values.mem_iff.mp mem)
      exact positive gear (List.mem_filter.mp on).1

end

/-! ## From the start on -/

/-- The session in which a run has begun: its first instruction is executed. -/
def begun (s : Session) (clocked : s.holdings.Clocked tick bomb) : Session :=
  (s.armed (.fresh tick true clocked.tick_pos) (.fresh bomb false clocked.bomb_pos)).executed 1

theorem begun_holdings (s : Session) (clocked : s.holdings.Clocked tick bomb) :
    (s.begun clocked).holdings = s.holdings :=
  executed_holdings _ 1

theorem begun_phases (s : Session) (clocked : s.holdings.Clocked tick bomb) :
    (s.begun clocked).phases = .entered .running :=
  executed_phases _ 1

theorem begun_runElapsed (s : Session) (clocked : s.holdings.Clocked tick bomb) :
    (s.begun clocked).runElapsed = 0 :=
  executed_runElapsed _ 1

section
variable (clocked : s.holdings.Clocked tick bomb) (nonempty : 0 < s.holdings.program.length)
include nonempty

theorem begun_inRun : (s.begun clocked).InRun (.fresh tick true clocked.tick_pos)
    (.fresh bomb false clocked.bomb_pos) :=
  armed_inRun clocked nonempty

theorem begun_pc : (s.begun clocked).interpreter.pc = 1 :=
  (executed_counters (s := s.armed _ _) (n := 1) ((Nat.zero_add 1).symm ▸ nonempty)).1

theorem begun_passed_eq (time : Int) : (s.begun clocked).passed time =
    (s.begun clocked).runUntil (.fresh tick true clocked.tick_pos) (.fresh bomb false clocked.bomb_pos)
      time := by
  rw [(begun_inRun clocked nonempty).passed_eq, begun_runElapsed, Int.zero_add]

variable (queue : s.queue = []) (distinct : s.level.layout.Distinct)
  (positive : ∀ gear ∈ s.level.layout, 0 < gear.2)
include queue distinct positive

/-- What is executed from here on is executed from the start on. -/
theorem begun_executed {n : Nat} (one : 1 ≤ n) (fit : n ≤ s.holdings.program.length) :
    Collecting s n 0 ((s.begun clocked).executed (n - (s.begun clocked).interpreter.pc)) := by
  have all : (s.begun clocked).executed (n - (s.begun clocked).interpreter.pc) =
      (s.armed (.fresh tick true clocked.tick_pos) (.fresh bomb false clocked.bomb_pos)).executed n := by
    rw [begun_pc clocked nonempty, begun, ← executed_add, Nat.add_sub_of_le one]
  rw [all]
  exact executed_collecting queue distinct positive fit

/-- A run goes on while the time is short of the program and of the bomb. -/
theorem begun_goesOn (nonneg : 0 ≤ time) (before : time < (s.courseAhead tick bomb).finish) :
    ((s.begun clocked).passed time).phases = .entered .running ∧
      Collecting s ((time / tick).toNat + 1) time ((s.begun clocked).passed time) := by
  have before_end : time < (s.begun clocked).holdings.program.length * tick := by
    rw [begun_holdings]
    exact lt_of_lt_of_le before (min_le_left _ _)
  have before_bomb : time < bomb := lt_of_lt_of_le before (min_le_right _ _)
  have pos := clocked.tick_pos
  have quotient_nonneg : 0 ≤ time / tick := Int.ediv_nonneg nonneg pos.le
  have quotient_lt : time / tick < (s.begun clocked).holdings.program.length :=
    Int.ediv_lt_of_lt_mul pos before_end
  rw [begun_holdings] at quotient_lt
  have instructions : (time / tick + 1 - (s.begun clocked).interpreter.pc).toNat =
      (time / tick).toNat + 1 - (s.begun clocked).interpreter.pc := by omega
  have executed := begun_executed clocked nonempty queue distinct positive
    (n := (time / tick).toNat + 1) (Nat.le_add_left 1 _) (by omega)
  rw [begun_passed_eq clocked nonempty, runUntil_of_lt before_end before_bomb]
  refine ⟨(executed_phases _ _).trans (s.begun_phases clocked), ?_⟩
  rw [← instructions] at executed
  exact executed.clocked _ _

/-- From then on it is over. -/
theorem begun_over (finished : (s.courseAhead tick bomb).finish ≤ time) :
    let c := s.courseAhead tick bomb
    let x := (s.begun clocked).passed time
    x.phases = .entered .buying ∧ x.interpreter = .idle ∧ x.lastOutcome = some c.outcome ∧
      Collecting s c.count c.finish x := by
  intro c x
  have run := begun_inRun clocked nonempty
  have same := s.begun_holdings clocked
  have executed : ∀ {n}, _ → _ → Collecting s n 0 _ :=
    begun_executed clocked nonempty queue distinct positive
  have passed : x = _ := begun_passed_eq clocked nonempty time
  rcases lt_or_ge (c.program.length * c.tick) c.bomb with through | not_through
  · obtain ⟨outcome, count, finish⟩ := Course.ends_in_success through
    have at_end : s.holdings.program.length * tick ≤ time := le_of_eq_of_le finish.symm finished
    rw [finish, outcome, count, passed, runUntil_of_through (same.symm ▸ at_end) (same.symm ▸ through),
      same]
    exact ⟨rfl, rfl, rfl, (executed nonempty (Nat.le_refl _)).ended _ _⟩
  · obtain ⟨outcome, count, finish⟩ := Course.ends_in_failure not_through
    have at_bomb : bomb ≤ time := le_of_eq_of_le finish.symm finished
    have bounds : ((s.begun clocked).interpreter.pc : Int) ≤ ticksBefore tick bomb ∧
        ticksBefore tick bomb ≤ (s.begun clocked).holdings.program.length :=
      run.ticksBefore_bounds (same.symm ▸ not_through)
    rw [begun_pc clocked nonempty, same] at bounds
    have one : 1 ≤ (ticksBefore tick bomb).toNat := by omega
    rw [finish, outcome, count, passed, runUntil_of_bomb at_bomb (same.symm ▸ not_through)]
    exact ⟨rfl, rfl, rfl, (executed one (by omega)).ended _ _⟩

end

/-! ## Frames after the start -/

/-- The session with the pickups in its queue credited, and nothing left to be told. -/
def cleared (s : Session) (found : List Int) : Session :=
  s.amid ({ s.surroundings with queue := [] }.credited s.holdings.upgrades found).silent

theorem cleared_clear (s : Session) (found : List Int) : (s.cleared found).Clear where
  queue := Surroundings.credited_queue _ _ found
  outbox := rfl

theorem Brings.of_cleared {found more : List Int} {news : List Event}
    (brings : (s.cleared found).Brings time more news) : s.Brings time more news := by
  obtain ⟨more', news', brings', -⟩ := s.exists_brings time
  obtain ⟨rfl, rfl⟩ := (brings'.amid _).unique brings
  exact brings'

/-- Gears that are credited at the end of two frames might as well be credited at the end of the
second. -/
theorem settled_cleared {found more : List Int} {news : List Event} (queue : s.queue = pickUps found)
    (brings : (s.cleared found).Brings time more news) :
    (s.passed time).queue = pickUps (found ++ more) ∧
    ∃ d : Surroundings, (s.cleared found).settled time more = (s.passed time).amid d ∧
      ((∀ amount ∈ found ++ more, 0 < amount) →
        d.wallet = ⟨s.holdings.wallet.balance + (found ++ more).sum⟩) := by
  have unspent := brings.of_cleared
  constructor
  · refine (congrArg (·.queue) (unspent s.surroundings)).trans ?_
    show s.queue ++ pickUps more = _
    rw [queue, pickUps_append]
  · have passed : (s.cleared found).passed time = _ := unspent _
    unfold Session.settled
    rw [passed]
    refine ⟨_, rfl, fun positive => ?_⟩
    obtain ⟨first, second⟩ := List.forall_mem_append.mp positive
    refine (Surroundings.credited_wallet _ _ second).trans ?_
    have before : (s.cleared found).holdings.wallet = _ :=
      Surroundings.credited_wallet s.holdings.upgrades { s.surroundings with queue := [] } first
    show Wallet.mk ((s.cleared found).holdings.wallet.balance + more.sum) = _
    rw [before, List.sum_append, ← Int.add_assoc]
    rfl

/-! ## A run that is let go -/

/-- In `t` a run of `s` has begun, of this course, which after its end leaves behind `w`.  How its
frames are cut makes no difference. -/
structure Launched (level : Level) (s : Session) (c : Course) (t w : Session) : Prop where
  steady : t.Steady
  clear : t.Clear
  answerable : t.level.Answerable
  goes_on : ∀ (dt : Int) (k : Nat), 0 ≤ dt → k * dt < c.finish →
    (t.framed dt k).phases = .entered .running ∧
      Ran s ((k * dt / c.tick).toNat + 1) (k * dt) (t.framed dt k)
  between : w.Between level
  outcome : w.lastOutcome = some c.outcome
  ran : Ran s c.count c.finish w
  is_over : ∀ (dt : Int) (k : Nat), 0 ≤ dt → c.finish ≤ k * dt → t.framed dt k = w

theorem Between.dispatch_start (h : s.Between level)
    (begins : (s.beginRun (.entered .running)).Gives () x) :
    (s.dispatch (.command .startRun)).Gives true x := by
  rw [Session.dispatch_start h.buying h.active]
  exact begins.andThen (Attempt.gives_done _ _ _)

/-- What a run has collected by some moment is credited by then. -/
theorem begun_settled (clocked : s.holdings.Clocked tick bomb) {found more : List Int}
    {news : List Event} {moment : Int} (queued : (s.begun clocked).queue = pickUps found)
    (collecting : Collecting s count time ((s.begun clocked).passed moment))
    (brings : ((s.begun clocked).cleared found).Brings moment more news) :
    ∃ d, ((s.begun clocked).cleared found).settled moment more =
        ((s.begun clocked).passed moment).amid d ∧
      Ran s count time (((s.begun clocked).passed moment).amid d) := by
  obtain ⟨queue, d, same, paid⟩ := settled_cleared queued brings
  obtain ⟨sum, each⟩ := collecting.queue queue
  refine ⟨d, same, collecting.ran ?_⟩
  rw [paid each, sum, begun_holdings]

section
variable (h : s.Between level) (clocked : s.holdings.Clocked tick bomb)
  (distinct : level.layout.Distinct) (positive : ∀ gear ∈ level.layout, 0 < gear.2)
include h clocked distinct positive

/-- A run of no instructions is over with its start. -/
theorem Between.launch_of_empty (empty : s.holdings.program.length = 0) :
    ∃ events t, (s.order .startRun).Gives events t ∧
      Launched level s (s.courseAhead tick bomb) t t := by
  rw [← h.layout] at distinct positive
  let a := s.armed (.fresh tick true clocked.tick_pos) (.fresh bomb false clocked.bomb_pos)
  let x := a.ended .success 0
  have worked : x.runQueue.Gives () x := by
    rw [runQueue_of_nil (show x.queue = [] from h.queue)]
    exact Attempt.gives_done _ _ _
  have order := Steady.order_gives (.inl h.resting) h.queue
    (h.dispatch_start (beginRun_gives_of_empty clocked empty)) worked
  have rest : x.drain.2.Resting := ⟨rfl, rfl⟩
  have clear : x.drain.2.Clear := ⟨h.queue, rfl⟩
  have length : s.holdings.program.length * tick = 0 := by rw [empty, Int.natCast_zero, Int.zero_mul]
  obtain ⟨outcome, count, finish⟩ :=
    Course.ends_in_success (c := s.courseAhead tick bomb) (length ▸ clocked.bomb_pos)
  replace count : (s.courseAhead tick bomb).count = 0 := count.trans empty
  replace finish : (s.courseAhead tick bomb).finish = 0 := finish.trans length
  refine ⟨_, _, order, .inl rest, clear, Level.answerable_of_positive positive, ?_, ?_,
    outcome ▸ rfl, ?_, fun dt k nonneg _ => rest.framed_eq clear nonneg k⟩
  · intro dt k nonneg before
    rw [finish] at before
    exact absurd before (not_lt.mpr (Int.mul_nonneg (Int.natCast_nonneg k) nonneg))
  · exact ⟨rfl, rfl, h.queue, rfl, h.start, h.layout⟩
  · rw [finish, count]
    have none_yet : Collecting s 0 0 x :=
      (executed_collecting (n := 0) h.queue distinct positive (Nat.zero_le _)).ended _ _
    refine none_yet.ran (d := { x.surroundings with outbox := [] }) ?_
    rw [harvest_zero, Int.add_zero]
    rfl

/-- A run whose first instruction is executed goes on from there. -/
theorem Between.launch_of_nonempty (nonempty : 0 < s.holdings.program.length) :
    ∃ events t w, (s.order .startRun).Gives events t ∧
      Launched level s (s.courseAhead tick bomb) t w := by
  rw [← h.layout] at distinct positive
  let c := s.courseAhead tick bomb
  let x := s.begun clocked
  let a := s.armed (.fresh tick true clocked.tick_pos) (.fresh bomb false clocked.bomb_pos)
  obtain ⟨answerable, found, queued, each⟩ :=
    executed_answerable (s := a) (Level.answerable_of_positive positive) 1
  have queued : x.queue = pickUps found := by
    rw [show x.queue = s.queue ++ pickUps found from queued, h.queue, List.nil_append]
  have order := Steady.order_gives (.inl h.resting) h.queue
    (h.dispatch_start (beginRun_gives clocked nonempty)) (runQueue_pickUps queued each)
  let t := x.cleared found
  have steady : t.Steady := .inr ⟨_, _, (begun_inRun clocked nonempty).congr rfl rfl rfl rfl rfl⟩
  have clear : t.Clear := x.cleared_clear found
  -- the session at the end, and how it is told from `x`
  obtain ⟨all, news, brings, -⟩ := t.exists_brings c.finish
  have nonneg : 0 ≤ c.finish :=
    le_min (Int.mul_nonneg (Int.natCast_nonneg _) clocked.tick_pos.le) clocked.bomb_pos.le
  obtain ⟨phases, idle, outcome, collecting⟩ :=
    begun_over clocked nonempty h.queue distinct positive (Int.le_refl c.finish)
  obtain ⟨d, same, ran⟩ := begun_settled clocked queued collecting brings
  have finished : (t.passed c.finish).running = false := by
    have passed : t.passed c.finish = _ := brings.of_cleared _
    rw [passed]
    show (x.passed c.finish).phases.running = false
    rw [phases]
    rfl
  refine ⟨_, t, t.settled c.finish all, order, steady, clear, answerable, ?_, ?_, ?_, ?_, ?_⟩
  · intro dt k dt_nonneg before
    obtain ⟨more, news', brings', framed⟩ := steady.framed_eq clear answerable dt_nonneg k
    obtain ⟨going, collecting'⟩ := begun_goesOn clocked nonempty h.queue distinct positive
      (Int.mul_nonneg (Int.natCast_nonneg k) dt_nonneg) before
    obtain ⟨d', same', ran'⟩ := begun_settled clocked queued collecting' brings'
    rw [framed, same']
    exact ⟨going, ran'⟩
  · have ended := clear.settled c.finish all
    rw [same] at ended ⊢
    exact ⟨phases, idle, ended.queue, ended.outbox, ran.start.trans h.start, ran.layout.trans h.layout⟩
  · rw [same]
    exact outcome
  · rw [same]
    exact ran
  · intro dt k dt_nonneg le
    exact steady.framed_of_over clear answerable nonneg finished brings dt_nonneg le

/-- **A run that is ordered begins**, if its clocks can be made. -/
theorem Between.launch : ∃ events t w, (s.order .startRun).Gives events t ∧
    Launched level s (s.courseAhead tick bomb) t w := by
  rcases Nat.eq_zero_or_pos s.holdings.program.length with empty | nonempty
  · obtain ⟨events, t, order, launched⟩ := h.launch_of_empty clocked distinct positive empty
    exact ⟨events, t, t, order, launched⟩
  · exact h.launch_of_nonempty clocked distinct positive nonempty

end

/-- Without clocks the start of a run is a fault of the settings. -/
theorem Between.order_start_fails (h : s.Between level) (cannot : ¬s.holdings.CanRun) :
    ∃ fault, (s.order .startRun).result = .error fault ∧ fault.OfTime := by
  obtain ⟨⟨fault, failed, of_time⟩, -⟩ := beginRun_fails cannot
  have stopped : (s.dispatch (.command .startRun)).result = .error fault := by
    rw [Session.dispatch_start h.buying h.active]
    exact (Attempt.andThen_of_error _ failed).1
  exact ⟨fault, Steady.order_fails (.inl h.resting) h.queue stopped, of_time⟩

/-! ## The record -/

section
variable {pace : ScriptSettings} {frames run : Nat} {events : List Event} {waited : Float}

/-- A loop that stops when the run is over. -/
theorem Launched.playRun_completed (h : Launched level s c t w)
    (order : (s.order .startRun).Gives events t)
    (loop : (t.passFrames pace frames 0.0 []).Gives waited w) :
    (s.playRun pace frames run).Gives (s.recorded run (.completed c.outcome) c.count c.finish) w := by
  refine order.andThen (loop.andThen ?_)
  rw [if_neg (by simp [h.between.buying])]
  rw [h.outcome, ← h.ran.ofSession]
  exact Attempt.gives_done _ _ _

/-- A loop that stops before. -/
theorem Launched.playRun_timedOut (h : Launched level s c t w) (between : s.Between level)
    (order : (s.order .startRun).Gives events t) {dt : Int} {k : Nat} (nonneg : 0 ≤ dt)
    (before : k * dt < c.finish)
    (loop : (t.passFrames pace frames 0.0 []).Gives waited (t.framed dt k)) :
    ∃ u, u.Between level ∧ (s.playRun pace frames run).Gives
      (s.recorded run .timedOut ((k * dt / c.tick).toNat + 1) (k * dt)) u := by
  obtain ⟨entered, ran⟩ := h.goes_on dt k nonneg before
  obtain ⟨steady, clear, -⟩ := h.steady.framed_steady h.clear h.answerable nonneg k
  have running : (t.framed dt k).running = true := by
    show (t.framed dt k).phases.running = true
    rw [entered]
    rfl
  obtain ⟨ticks, bomb, inRun⟩ := steady.inRun running
  obtain ⟨told, u, reset, after⟩ := Steady.order_reset inRun clear entered
    (ran.start.trans between.start) (ran.layout.trans between.layout)
  refine ⟨u, after, order.andThen (loop.andThen ?_)⟩
  rw [if_pos running, ran.ofSession]
  exact (reset.andThen (Attempt.gives_done _ _ _)).after _

end

end Session

end RobotWorkshop
