import RobotWorkshop.Proofs.Execution
import Mathlib

/-!
The run stage of a frame in closed form.  Of a run with `n` instructions, a tick clock of period `D`
and a bomb of duration `B`, the tick of instruction `i` falls `i D` nanoseconds after the start, and
the one that finds the end of the program at `n D`.  After `t` nanoseconds the run

    goes on, with t / D + 1 instructions executed      if t < n D and t < B
    is over since n D, all instructions executed       otherwise, if n D < B
    is over since B, the instructions before B executed   otherwise

(`Session.advanceUpTo_gives`).  Nothing here depends on how the `t` nanoseconds are cut into frames
or on how many ticks of a frame are asked for, as long as they are enough for the rest of the
program.
-/

namespace RobotWorkshop

/-- The number of moments `0, period, 2 period, …` before a moment. -/
def ticksBefore (period moment : Int) : Int := (moment + period - 1) / period

theorem lt_ticksBefore_iff {period : Int} (pos : 0 < period) (moment i : Int) :
    i < ticksBefore period moment ↔ i * period < moment := by
  unfold ticksBefore
  rw [← Int.add_one_le_iff, Int.le_ediv_iff_mul_le pos, Int.add_mul, Int.one_mul]
  omega

-- a tick that falls together with the moment is not before it
example : ticksBefore 3 6 = 2 := by decide

/-- A repeating timer that has run for `t` nanoseconds in all. -/
def Timer.standing (timer : Timer) (t : Int) : Timer :=
  { timer with elapsed := t % timer.duration, timesFinished := t / timer.duration }

namespace Session

/-- The session is in a run whose clocks these are.  The next tick is that of instruction `pc`. -/
structure InRun (s : Session) (ticks bomb : Timer) : Prop where
  running : s.running = true
  clocks : s.interpreter.clocks = .armed ticks bomb
  ticks_running : ticks.running = true
  ticks_repeating : ticks.repeating = true
  bomb_running : bomb.running = true
  bomb_once : bomb.repeating = false
  pc_pos : 1 ≤ s.interpreter.pc
  pc_le : s.interpreter.pc ≤ s.holdings.program.length
  pc_eq_ticks : s.interpreter.pc = s.ticks
  pc_eq : (s.interpreter.pc : Int) = ticks.timesFinished + 1
  elapsed_eq : s.runElapsed = ticks.timesFinished * ticks.duration + ticks.elapsed
  bomb_elapsed : bomb.elapsed = s.runElapsed
  elapsed_nonneg : 0 ≤ ticks.elapsed
  elapsed_lt : ticks.elapsed < ticks.duration
  bomb_lt : bomb.elapsed < bomb.duration

/-- The session with other clocks, so many nanoseconds after the start of its run. -/
def clocked (s : Session) (clocks : Clocks) (time : Int) : Session :=
  { s with interpreter := { s.interpreter with clocks }, runElapsed := time }

/-- The session whose run still goes on `t` nanoseconds after its start. -/
def goneOn (s : Session) (ticks bomb : Timer) (t : Int) : Session :=
  (s.executed (t / ticks.duration + 1 - s.interpreter.pc).toNat).clocked
    (.armed (ticks.standing t) { bomb with elapsed := t }) t

/-- The session `t` nanoseconds after the start of its run. -/
def runUntil (s : Session) (ticks bomb : Timer) (t : Int) : Session :=
  let length := s.holdings.program.length
  let pc := s.interpreter.pc
  if t < length * ticks.duration ∧ t < bomb.duration then s.goneOn ticks bomb t
  else if length * ticks.duration < bomb.duration then
    (s.executed (length - pc)).ended .success (length * ticks.duration)
  else
    (s.executed ((ticksBefore ticks.duration bomb.duration).toNat - pc)).ended .failure
      bomb.duration

section
variable {s : Session} {ticks bomb : Timer} {t : Int}

theorem runUntil_of_lt (before_end : t < s.holdings.program.length * ticks.duration)
    (before_bomb : t < bomb.duration) : s.runUntil ticks bomb t = s.goneOn ticks bomb t :=
  if_pos ⟨before_end, before_bomb⟩

theorem runUntil_of_through (at_end : s.holdings.program.length * ticks.duration ≤ t)
    (before_bomb : s.holdings.program.length * ticks.duration < bomb.duration) :
    s.runUntil ticks bomb t =
      (s.executed (s.holdings.program.length - s.interpreter.pc)).ended .success
        (s.holdings.program.length * ticks.duration) :=
  (if_neg (by omega)).trans (if_pos before_bomb)

theorem runUntil_of_bomb (at_bomb : bomb.duration ≤ t)
    (not_through : bomb.duration ≤ s.holdings.program.length * ticks.duration) :
    s.runUntil ticks bomb t =
      (s.executed ((ticksBefore ticks.duration bomb.duration).toNat - s.interpreter.pc)).ended
        .failure bomb.duration :=
  (if_neg (by omega)).trans (if_neg (by omega))

/-- One of the three. -/
theorem runUntil_cases (s : Session) (ticks bomb : Timer) (t : Int) :
    t < s.holdings.program.length * ticks.duration ∧ t < bomb.duration ∨
      s.holdings.program.length * ticks.duration ≤ t ∧
        s.holdings.program.length * ticks.duration < bomb.duration ∨
      bomb.duration ≤ t ∧ bomb.duration ≤ s.holdings.program.length * ticks.duration := by
  omega

end

/-! ## Executing and clocks -/

theorem executed_clocked (s : Session) (clocks : Clocks) (time : Int) (n : Nat) :
    (s.clocked clocks time).executed n = (s.executed n).clocked clocks time := by
  induction n generalizing s with
  | zero => rfl
  | succ n ih =>
    cases h : s.holdings.program.sequence[s.interpreter.pc]? with
    | none => rw [executed_of_past _ h, executed_of_past _ (s := s.clocked clocks time) h]
    | some i =>
      rw [executed_succ _ h, executed_succ _ (s := s.clocked clocks time) h]
      exact ih (s.stepped i)

namespace InRun

variable {s : Session} {ticks bomb : Timer} {dt : Int}

/-- The tick clock in a frame: its ticks fall at the multiples of its period. -/
theorem ticks_tick (h : s.InRun ticks bomb) (cap : Option Int) (dt_nonneg : 0 ≤ dt) :
    ticks.tick dt cap =
      .ok (beats (s.interpreter.pc * ticks.duration - s.runElapsed) ticks.duration
          (Timer.reported cap
            ((s.runElapsed + dt) / ticks.duration + 1 - s.interpreter.pc).toNat),
        ticks.standing (s.runElapsed + dt)) := by
  have pos := ticks.duration_pos
  have due : ticks.due = s.interpreter.pc * ticks.duration - s.runElapsed := by
    rw [h.pc_eq, h.elapsed_eq, Int.add_mul]
    unfold Timer.due
    omega
  have split : s.runElapsed + dt = dt + ticks.elapsed + ticks.timesFinished * ticks.duration := by
    rw [h.elapsed_eq]
    omega
  have quotient : (s.runElapsed + dt) / ticks.duration =
      (dt + ticks.elapsed) / ticks.duration + ticks.timesFinished := by
    rw [split, Int.add_mul_ediv_right _ _ (by omega)]
  have remainder : (s.runElapsed + dt) % ticks.duration = (dt + ticks.elapsed) % ticks.duration := by
    rw [split, Int.add_mul_emod_self_right]
  have count : (s.runElapsed + dt) / ticks.duration + 1 - s.interpreter.pc =
      (dt + ticks.elapsed) / ticks.duration := by
    rw [h.pc_eq, quotient]
    omega
  rw [Timer.tick_repeating cap h.ticks_running h.ticks_repeating h.elapsed_nonneg h.elapsed_lt
    dt_nonneg, count, due, Timer.standing, remainder, quotient,
    Int.add_comm ticks.timesFinished]

/-- The instruction that is next is told by the time that has passed. -/
theorem pc_eq_elapsed (h : s.InRun ticks bomb) :
    (s.interpreter.pc : Int) = s.runElapsed / ticks.duration + 1 := by
  have pos := ticks.duration_pos
  rw [h.pc_eq, h.elapsed_eq, Int.add_comm (_ * _), Int.add_mul_ediv_right _ _ (by omega),
    Int.ediv_eq_zero_of_lt h.elapsed_nonneg h.elapsed_lt, Int.zero_add]

theorem bomb_due (h : s.InRun ticks bomb) : bomb.due = bomb.duration - s.runElapsed := by
  unfold Timer.due
  rw [h.bomb_elapsed]

/-- What falls before the bomb's moment is in time, whether or not the bomb goes off in the frame.
-/
theorem in_time (h : s.InRun ticks bomb) {offset : Int}
    (early : offset < bomb.duration - s.runElapsed) :
    (bomb.expiryOffset dt).any (· ≤ offset) = false := by
  rw [← h.bomb_due] at early
  unfold Timer.expiryOffset
  split
  · simpa using early
  · rfl

/-- Enough ticks are asked for to go through the rest of the program and find its end. -/
theorem asked {cap : Option Int} (enough : ∀ c, cap = some c → s.pendingTicks ≤ c) {m k : Nat}
    (le : m ≤ k) (fit : s.interpreter.pc + m ≤ s.holdings.program.length + 1) :
    ∃ more, Timer.reported cap k = m + more := by
  have : m ≤ Timer.reported cap k := by
    refine Timer.le_reported le ?_
    intro c hc
    have := enough c hc
    unfold pendingTicks at this
    omega
  exact ⟨_, (Nat.add_sub_of_le this).symm⟩

/-- One frame of a run, with the clocks read and the ticks in it still to be executed. -/
theorem advanceUpTo_eq (h : s.InRun ticks bomb) (cap : Option Int) (dt_nonneg : 0 ≤ dt)
    {bombLeft : Timer} {completions : List Int}
    (bomb_tick : bomb.tick dt none = .ok (completions, bombLeft)) :
    s.advanceUpTo cap dt =
      ((s.clocked (.armed (ticks.standing (s.runElapsed + dt)) bombLeft) s.runElapsed).runTicks
        (bomb.expiryOffset dt)
        (beats (s.interpreter.pc * ticks.duration - s.runElapsed) ticks.duration
          (Timer.reported cap
            ((s.runElapsed + dt) / ticks.duration + 1 - s.interpreter.pc).toNat))).andThen
        fun s ended =>
          match ended, bomb.expiryOffset dt with
          | some offset, _ => .done (s.elapse offset) ()
          | none, some offset => s.explode offset
          | none, none => .done (s.elapse dt) () := by
  unfold advanceUpTo
  rw [h.clocks]
  simp only [bomb_tick, h.ticks_tick cap dt_nonneg]
  rfl

/-- Before its end a run goes on. -/
theorem advanceUpTo_goesOn (h : s.InRun ticks bomb) {cap : Option Int} (dt_nonneg : 0 ≤ dt)
    (enough : ∀ c, cap = some c → s.pendingTicks ≤ c)
    (before_end : s.runElapsed + dt < s.holdings.program.length * ticks.duration)
    (before_bomb : s.runElapsed + dt < bomb.duration) :
    (s.advanceUpTo cap dt).Gives () (s.goneOn ticks bomb (s.runElapsed + dt)) := by
  have early : dt < bomb.due := by unfold Timer.due; rw [h.bomb_elapsed]; omega
  have quotient_lt : (s.runElapsed + dt) / ticks.duration < s.holdings.program.length :=
    Int.ediv_lt_of_lt_mul ticks.duration_pos before_end
  have pc_le := h.pc_le
  rw [h.advanceUpTo_eq cap dt_nonneg (Timer.tick_of_lt none h.bomb_running dt_nonneg early),
    Timer.expiryOffset_of_lt early, h.bomb_elapsed]
  unfold goneOn
  -- every tick of the frame is asked for, and there is an instruction for each
  generalize count : ((s.runElapsed + dt) / ticks.duration + 1 - s.interpreter.pc).toNat = k
  have all : Timer.reported cap k = k := by
    obtain ⟨more, reported⟩ := asked enough (Nat.le_refl k) (by omega)
    have := Timer.reported_le cap k
    omega
  rw [all, ← List.append_nil (beats _ _ _), ← executed_clocked]
  refine Attempt.Gives.andThen (v := none) (runTicks_append [] ?_ ?_ (Attempt.gives_done _ _ _)) ?_
  · intro offset _
    rfl
  · rw [length_beats]
    show s.interpreter.pc + k ≤ s.holdings.program.length
    omega
  · rw [length_beats, executed_clocked, executed_clocked]
    exact Attempt.gives_done _ _ _

/-- A run that is through its program before the bomb goes off is over with the next tick. -/
theorem advanceUpTo_completes (h : s.InRun ticks bomb) {cap : Option Int} (dt_nonneg : 0 ≤ dt)
    (enough : ∀ c, cap = some c → s.pendingTicks ≤ c)
    (at_end : s.holdings.program.length * ticks.duration ≤ s.runElapsed + dt)
    (before_bomb : s.holdings.program.length * ticks.duration < bomb.duration) :
    (s.advanceUpTo cap dt).Gives ()
      ((s.executed (s.holdings.program.length - s.interpreter.pc)).ended .success
        (s.holdings.program.length * ticks.duration)) := by
  have pos := ticks.duration_pos
  have pc_le := h.pc_le
  have le_quotient : (s.holdings.program.length : Int) ≤ (s.runElapsed + dt) / ticks.duration :=
    Int.le_ediv_of_mul_le pos at_end
  obtain ⟨completions, bombLeft, bomb_tick, -⟩ := bomb.tick_head dt_nonneg
  rw [h.advanceUpTo_eq cap dt_nonneg bomb_tick]
  generalize instructions : s.holdings.program.length - s.interpreter.pc = n
  -- the frame has a tick for each instruction that is left, and one more
  obtain ⟨more, asked⟩ := asked enough
    (show n + 1 ≤ ((s.runElapsed + dt) / ticks.duration + 1 - s.interpreter.pc).toNat by omega)
    (by omega)
  rw [Nat.add_assoc, Nat.add_comm 1] at asked
  have last : (s.interpreter.pc : Int) * ticks.duration - s.runElapsed + n * ticks.duration =
      s.holdings.program.length * ticks.duration - s.runElapsed := by
    have : (s.holdings.program.length : Int) = s.interpreter.pc + n := by omega
    rw [this]
    ring
  have fit : s.interpreter.pc + n ≤ s.holdings.program.length := by omega
  rw [asked, beats_add, beats, last]
  refine Attempt.Gives.andThen (runTicks_append _ ?_ ?_ (runTicks_at_end _ ?_ ?_ ?_)) ?_
  · intro offset mem
    obtain ⟨i, hi, rfl⟩ := mem_beats.mp mem
    have : (i : Int) * ticks.duration ≤ n * ticks.duration :=
      Int.mul_le_mul_of_nonneg_right (by omega) (by omega)
    exact h.in_time (by omega)
  · rw [length_beats]
    exact fit
  · rw [executed_clocked, length_beats]
    show (s.executed n).phases.running = true
    rw [executed_phases]
    exact h.running
  · rw [executed_clocked, length_beats]
    show (s.executed n).interpreter.pc = (s.executed n).holdings.program.length
    rw [(executed_counters fit).1, executed_holdings]
    omega
  · exact h.in_time (by omega)
  · rw [executed_clocked, length_beats]
    have time : s.runElapsed + (s.holdings.program.length * ticks.duration - s.runElapsed) =
        s.holdings.program.length * ticks.duration := by omega
    exact ⟨rfl, congrArg ((s.executed n).ended .success) time⟩

/-- The instructions before the bomb: those that have been executed and perhaps more. -/
theorem ticksBefore_bounds (h : s.InRun ticks bomb)
    (not_through : bomb.duration ≤ s.holdings.program.length * ticks.duration) :
    (s.interpreter.pc : Int) ≤ ticksBefore ticks.duration bomb.duration ∧
      ticksBefore ticks.duration bomb.duration ≤ s.holdings.program.length := by
  have before := lt_ticksBefore_iff ticks.duration_pos bomb.duration
  constructor
  · have last_tick : ticks.timesFinished * ticks.duration < bomb.duration := by
      have := h.elapsed_eq
      have := h.elapsed_nonneg
      have := h.bomb_elapsed
      have := h.bomb_lt
      omega
    have := h.pc_eq
    have := (before ticks.timesFinished).mpr last_tick
    omega
  · rw [← Int.not_lt, before]
    omega

/-- A run that is not through its program when the bomb goes off is over then. -/
theorem advanceUpTo_explodes (h : s.InRun ticks bomb) {cap : Option Int} (dt_nonneg : 0 ≤ dt)
    (enough : ∀ c, cap = some c → s.pendingTicks ≤ c)
    (at_bomb : bomb.duration ≤ s.runElapsed + dt)
    (not_through : bomb.duration ≤ s.holdings.program.length * ticks.duration) :
    (s.advanceUpTo cap dt).Gives ()
      ((s.executed ((ticksBefore ticks.duration bomb.duration).toNat - s.interpreter.pc)).ended
        .failure bomb.duration) := by
  have pos := ticks.duration_pos
  have expiry : bomb.expiryOffset dt = some (bomb.duration - s.runElapsed) := by
    rw [Timer.expiryOffset_of_le h.bomb_running (by rw [h.bomb_due]; omega), h.bomb_due]
  obtain ⟨completions, bombLeft, bomb_tick, -⟩ := bomb.tick_head dt_nonneg
  rw [h.advanceUpTo_eq cap dt_nonneg bomb_tick, expiry]
  have before := lt_ticksBefore_iff pos bomb.duration
  obtain ⟨le_total, total_le⟩ := h.ticksBefore_bounds not_through
  generalize ticksBefore ticks.duration bomb.duration = total at before le_total total_le ⊢
  generalize instructions : total.toNat - s.interpreter.pc = n
  have fit : s.interpreter.pc + n ≤ s.holdings.program.length := by omega
  -- the frame has a tick for each instruction before the bomb
  have in_frame : total - 1 ≤ (s.runElapsed + dt) / ticks.duration := by
    refine Int.le_ediv_of_mul_le pos ?_
    have := (before (total - 1)).mp (by omega)
    omega
  obtain ⟨more, asked⟩ := asked enough
    (show n ≤ ((s.runElapsed + dt) / ticks.duration + 1 - s.interpreter.pc).toNat by omega)
    (by omega)
  have moment : ∀ i : Nat, (s.interpreter.pc : Int) * ticks.duration - s.runElapsed +
      i * ticks.duration = (s.interpreter.pc + i) * ticks.duration - s.runElapsed := by
    intro i
    ring
  rw [asked, beats_add, moment]
  refine Attempt.Gives.andThen (v := none) (runTicks_append _ ?_ ?_ (runTicks_beats_of_le _ ?_)) ?_
  · intro offset mem
    obtain ⟨i, hi, rfl⟩ := mem_beats.mp mem
    have := (before (s.interpreter.pc + i)).mp (by omega)
    rw [← expiry, moment]
    exact h.in_time (by omega)
  · rw [length_beats]
    exact fit
  · have := mt (before (s.interpreter.pc + n)).mpr (by omega)
    omega
  · rw [executed_clocked, length_beats]
    have running : (((s.executed n).clocked (.armed (ticks.standing (s.runElapsed + dt)) bombLeft)
        s.runElapsed).elapse (bomb.duration - s.runElapsed)).running = true := by
      show (s.executed n).phases.running = true
      rw [executed_phases]
      exact h.running
    have time : s.runElapsed + (bomb.duration - s.runElapsed) = bomb.duration := by omega
    obtain ⟨result, state⟩ := (endRun_gives running .failure).after [.bombExploded (s.executed n).ticks]
    exact ⟨result, state.trans (congrArg ((s.executed n).ended .failure) time)⟩

/-- **Closed form of the run stage.** -/
theorem advanceUpTo_gives (h : s.InRun ticks bomb) {cap : Option Int} (dt_nonneg : 0 ≤ dt)
    (enough : ∀ c, cap = some c → s.pendingTicks ≤ c) :
    (s.advanceUpTo cap dt).Gives () (s.runUntil ticks bomb (s.runElapsed + dt)) := by
  rcases s.runUntil_cases ticks bomb (s.runElapsed + dt) with
    ⟨before_end, before_bomb⟩ | ⟨at_end, before_bomb⟩ | ⟨at_bomb, not_through⟩
  · rw [runUntil_of_lt before_end before_bomb]
    exact h.advanceUpTo_goesOn dt_nonneg enough before_end before_bomb
  · rw [runUntil_of_through at_end before_bomb]
    exact h.advanceUpTo_completes dt_nonneg enough at_end before_bomb
  · rw [runUntil_of_bomb at_bomb not_through]
    exact h.advanceUpTo_explodes dt_nonneg enough at_bomb not_through

theorem advance_gives (h : s.InRun ticks bomb) (dt_nonneg : 0 ≤ dt) :
    (s.advance dt).Gives () (s.runUntil ticks bomb (s.runElapsed + dt)) :=
  h.advanceUpTo_gives dt_nonneg fun _ hc => Int.le_of_eq (Option.some.inj hc)

/-- A run that goes on is a run still. -/
theorem goneOn_inRun (h : s.InRun ticks bomb) {t : Int} (later : s.runElapsed ≤ t)
    (before_end : t < s.holdings.program.length * ticks.duration)
    (before_bomb : t < bomb.duration) :
    (s.goneOn ticks bomb t).InRun (ticks.standing t) { bomb with elapsed := t } := by
  have pos := ticks.duration_pos
  have pc_eq := h.pc_eq
  have pc_pos := h.pc_pos
  have pc_le := h.pc_le
  have quotient_lt : t / ticks.duration < s.holdings.program.length :=
    Int.ediv_lt_of_lt_mul pos before_end
  have le_quotient : ticks.timesFinished ≤ t / ticks.duration := by
    refine Int.le_ediv_of_mul_le pos ?_
    have := h.elapsed_eq
    have := h.elapsed_nonneg
    omega
  have fit : s.interpreter.pc + (t / ticks.duration + 1 - s.interpreter.pc).toNat ≤
      s.holdings.program.length := by omega
  obtain ⟨pc, count⟩ := executed_counters fit
  have rest := executed_holdings s (t / ticks.duration + 1 - s.interpreter.pc).toNat
  exact {
    running := by
      show (s.executed _).phases.running = true
      rw [executed_phases]
      exact h.running
    clocks := rfl
    ticks_running := h.ticks_running
    ticks_repeating := h.ticks_repeating
    bomb_running := h.bomb_running
    bomb_once := h.bomb_once
    pc_pos := by
      show 1 ≤ (s.executed _).interpreter.pc
      omega
    pc_le := by
      show (s.executed _).interpreter.pc ≤ (s.executed _).holdings.program.length
      rw [rest]
      omega
    pc_eq_ticks := by
      show (s.executed _).interpreter.pc = (s.executed _).ticks
      have := h.pc_eq_ticks
      omega
    pc_eq := by
      show ((s.executed _).interpreter.pc : Int) = t / ticks.duration + 1
      omega
    elapsed_eq := (Int.mul_comm .. ▸ (Int.mul_ediv_add_emod t ticks.duration).symm)
    bomb_elapsed := rfl
    elapsed_nonneg := Int.emod_nonneg t (by omega)
    elapsed_lt := Int.emod_lt_of_pos t pos
    bomb_lt := before_bomb }

end InRun

end Session

end RobotWorkshop
