import RobotWorkshop.Proofs.RunInvariant
import RobotWorkshop.Proofs.Surroundings

/-!
The passing of time, without the queue.  `s.passed dt` is the session after the run stage of a frame
of `dt` nanoseconds.  A span of time can be cut anywhere,

    (s.passed a).passed b = s.passed (a + b)      (Steady.passed_passed)

and the gears and the events that it brings do not depend on the surroundings and add up (`Brings`,
`Brings.add`).
-/

namespace RobotWorkshop

namespace Session

/-! ## Two frames in one -/

section
variable {s : Session} {ticks bomb : Timer} {t u : Int}

theorem InRun.goneOn_counted (h : s.InRun ticks bomb) (later : s.runElapsed ≤ t)
    (before_end : t < s.holdings.program.length * ticks.duration) :
    (s.goneOn ticks bomb t).interpreter.pc =
        s.interpreter.pc + (t / ticks.duration + 1 - s.interpreter.pc).toNat ∧
      ((s.goneOn ticks bomb t).interpreter.pc : Int) = t / ticks.duration + 1 ∧
      (s.goneOn ticks bomb t).interpreter.pc ≤ s.holdings.program.length := by
  have quotient_lt : t / ticks.duration < s.holdings.program.length :=
    Int.ediv_lt_of_lt_mul ticks.duration_pos before_end
  have quotient_le : s.runElapsed / ticks.duration ≤ t / ticks.duration :=
    Int.ediv_le_ediv ticks.duration_pos later
  have pc_eq := h.pc_eq_elapsed
  have pc_le := h.pc_le
  have counted : (s.goneOn ticks bomb t).interpreter.pc =
      s.interpreter.pc + (t / ticks.duration + 1 - s.interpreter.pc).toNat :=
    (executed_counters (by omega)).1
  refine ⟨counted, ?_, ?_⟩ <;> omega

/-- Instructions that are executed in two frames. -/
theorem InRun.goneOn_executed (h : s.InRun ticks bomb) (later : s.runElapsed ≤ t)
    (before_end : t < s.holdings.program.length * ticks.duration) {n : Nat}
    (more : (s.goneOn ticks bomb t).interpreter.pc ≤ n) :
    (s.goneOn ticks bomb t).executed (n - (s.goneOn ticks bomb t).interpreter.pc) =
      (s.executed (n - s.interpreter.pc)).clocked
        (.armed (ticks.standing t) { bomb with elapsed := t }) t := by
  obtain ⟨counted, -, -⟩ := h.goneOn_counted later before_end
  have split : n - s.interpreter.pc = (t / ticks.duration + 1 - s.interpreter.pc).toNat +
      (n - (s.goneOn ticks bomb t).interpreter.pc) := by omega
  rw [split, executed_add, ← executed_clocked]
  rfl

/-- A run that has gone on goes on from there. -/
theorem InRun.runUntil_goneOn (h : s.InRun ticks bomb) (later : s.runElapsed ≤ t) (le : t ≤ u)
    (before_end : t < s.holdings.program.length * ticks.duration) (before_bomb : t < bomb.duration) :
    (s.goneOn ticks bomb t).runUntil (ticks.standing t) { bomb with elapsed := t } u =
      s.runUntil ticks bomb u := by
  obtain ⟨counted, pc_eq, pc_le⟩ := h.goneOn_counted later before_end
  have gone := h.goneOn_inRun later before_end before_bomb
  have same : (s.goneOn ticks bomb t).holdings = s.holdings := executed_holdings s _
  rcases s.runUntil_cases ticks bomb u with
    ⟨u_before_end, u_before_bomb⟩ | ⟨at_end, through⟩ | ⟨at_bomb, not_through⟩
  · have quotient_le : t / ticks.duration ≤ u / ticks.duration :=
      Int.ediv_le_ediv ticks.duration_pos le
    have both := h.goneOn_executed later before_end (n := (u / ticks.duration + 1).toNat) (by omega)
    have first : (u / ticks.duration + 1).toNat - s.interpreter.pc =
        (u / ticks.duration + 1 - s.interpreter.pc).toNat := by omega
    have second : (u / ticks.duration + 1).toNat - (s.goneOn ticks bomb t).interpreter.pc =
        (u / ticks.duration + 1 - (s.goneOn ticks bomb t).interpreter.pc).toNat := by omega
    rw [first, second] at both
    rw [runUntil_of_lt u_before_end u_before_bomb]
    refine (runUntil_of_lt (by rw [same]; exact u_before_end) u_before_bomb).trans ?_
    show ((s.goneOn ticks bomb t).executed
      (u / ticks.duration + 1 - (s.goneOn ticks bomb t).interpreter.pc).toNat).clocked
        (.armed (ticks.standing u) { bomb with elapsed := u }) u = _
    rw [both]
    rfl
  · rw [runUntil_of_through at_end through]
    refine (runUntil_of_through (by rw [same]; exact at_end) (by rw [same]; exact through)).trans ?_
    rw [same, h.goneOn_executed later before_end pc_le]
    rfl
  · have bounds := gone.ticksBefore_bounds (by rw [same]; exact not_through)
    have counted_le : (s.goneOn ticks bomb t).interpreter.pc ≤
        (ticksBefore ticks.duration bomb.duration).toNat := by
      have : ((s.goneOn ticks bomb t).interpreter.pc : Int) ≤
        ticksBefore ticks.duration bomb.duration := bounds.1
      omega
    rw [runUntil_of_bomb at_bomb not_through]
    refine (runUntil_of_bomb at_bomb (by rw [same]; exact not_through)).trans ?_
    show ((s.goneOn ticks bomb t).executed ((ticksBefore ticks.duration bomb.duration).toNat -
      (s.goneOn ticks bomb t).interpreter.pc)).ended .failure bomb.duration = _
    rw [h.goneOn_executed later before_end counted_le]
    rfl

/-! ## No frame at all -/

theorem InRun.before_end (h : s.InRun ticks bomb) :
    s.runElapsed < s.holdings.program.length * ticks.duration := by
  have next : s.runElapsed < s.interpreter.pc * ticks.duration := by
    have := h.elapsed_lt
    rw [h.elapsed_eq, h.pc_eq, Int.add_mul]
    omega
  have last : (s.interpreter.pc : Int) * ticks.duration ≤
      s.holdings.program.length * ticks.duration :=
    Int.mul_le_mul_of_nonneg_right (by have := h.pc_le; omega) (by have := ticks.duration_pos; omega)
  omega

theorem InRun.standing_eq (h : s.InRun ticks bomb) : ticks.standing s.runElapsed = ticks := by
  have quotient : s.runElapsed / ticks.duration = ticks.timesFinished := by
    have := h.pc_eq_elapsed
    have := h.pc_eq
    omega
  have remainder : s.runElapsed % ticks.duration = ticks.elapsed := by
    rw [Int.emod_def, quotient, h.elapsed_eq, Int.mul_comm]
    omega
  unfold Timer.standing
  rw [quotient, remainder]

theorem InRun.runUntil_now (h : s.InRun ticks bomb) :
    s.runUntil ticks bomb s.runElapsed = s := by
  have none_more : (s.runElapsed / ticks.duration + 1 - s.interpreter.pc).toNat = 0 := by
    have := h.pc_eq_elapsed
    omega
  have bomb_eq : { bomb with elapsed := s.runElapsed } = bomb := by rw [← h.bomb_elapsed]
  rw [runUntil_of_lt h.before_end (h.bomb_elapsed ▸ h.bomb_lt)]
  unfold goneOn
  rw [none_more, h.standing_eq, bomb_eq, ← h.clocks]
  rfl

end

/-! ## The passing of time -/

/-- The session after so many more nanoseconds, before its queue is looked at. -/
def passed (s : Session) (dt : Int) : Session :=
  match s.running, s.interpreter.clocks with
  | true, .armed ticks bomb => s.runUntil ticks bomb (s.runElapsed + dt)
  | _, _ => s

theorem InRun.passed_eq {s : Session} {ticks bomb : Timer} (h : s.InRun ticks bomb) (dt : Int) :
    s.passed dt = s.runUntil ticks bomb (s.runElapsed + dt) := by
  unfold passed
  rw [h.running, h.clocks]

theorem Resting.passed_eq {s : Session} (h : s.Resting) (dt : Int) : s.passed dt = s := by
  unfold passed
  rw [h.buying]

theorem passed_holdings (s : Session) (dt : Int) : (s.passed dt).holdings = s.holdings := by
  unfold passed
  split
  · unfold runUntil goneOn
    dsimp only
    split
    · exact executed_holdings s _
    · split
      · exact executed_holdings s _
      · exact executed_holdings s _
  · rfl

theorem Steady.passed {s : Session} (h : s.Steady) {dt : Int} (nonneg : 0 ≤ dt) :
    (s.passed dt).Steady := by
  rcases h with rest | ⟨ticks, bomb, run⟩
  · rw [rest.passed_eq]
    exact .inl rest
  · rw [run.passed_eq]
    exact run.runUntil_steady (by omega)

theorem Steady.passed_zero {s : Session} (h : s.Steady) : s.passed 0 = s := by
  rcases h with rest | ⟨ticks, bomb, run⟩
  · exact rest.passed_eq 0
  · rw [run.passed_eq, Int.add_zero]
    exact run.runUntil_now

/-- **Two frames in one**: the cut may fall before, on or after a tick, the last tick or the bomb.
-/
theorem Steady.passed_passed {s : Session} (h : s.Steady) {a b : Int} (a_nonneg : 0 ≤ a)
    (b_nonneg : 0 ≤ b) : (s.passed a).passed b = s.passed (a + b) := by
  rcases h with rest | ⟨ticks, bomb, run⟩
  · rw [rest.passed_eq, rest.passed_eq, rest.passed_eq]
  · rw [run.passed_eq, run.passed_eq, ← Int.add_assoc]
    rcases s.runUntil_cases ticks bomb (s.runElapsed + a) with
      ⟨before_end, before_bomb⟩ | ⟨at_end, through⟩ | ⟨at_bomb, not_through⟩
    · have elapsed : (s.goneOn ticks bomb (s.runElapsed + a)).runElapsed = s.runElapsed + a := rfl
      rw [runUntil_of_lt before_end before_bomb,
        (run.goneOn_inRun (by omega) before_end before_bomb).passed_eq, elapsed]
      exact run.runUntil_goneOn (by omega) (by omega) before_end before_bomb
    · rw [runUntil_of_through at_end through, (ended_resting _ _ _).passed_eq,
        runUntil_of_through (by omega) through]
    · rw [runUntil_of_bomb at_bomb not_through, (ended_resting _ _ _).passed_eq,
        runUntil_of_bomb (by omega) not_through]

/-! ## What time brings -/

/-- In so many nanoseconds the run finds these gears and tells these events, whatever its
surroundings. -/
def Brings (s : Session) (dt : Int) (found : List Int) (news : List Event) : Prop :=
  ∀ c, (s.amid c).passed dt = (s.passed dt).amid (c.adding found news)

theorem exists_brings (s : Session) (dt : Int) :
    ∃ found news, s.Brings dt found news ∧ ∀ e ∈ news, e.ofRun = true := by
  unfold Brings passed
  split
  · rename_i ticks bomb running clocks
    obtain ⟨found, news, ofRun, same⟩ := s.runUntil_amid ticks bomb (s.runElapsed + dt)
    refine ⟨found, news, fun c => ?_, ofRun⟩
    rw [show (s.amid c).running = true from running,
      show (s.amid c).interpreter.clocks = .armed ticks bomb from clocks]
    exact same c
  · rename_i others
    refine ⟨[], [], fun c => ?_, by simp⟩
    split
    · rename_i ticks bomb running clocks
      exact (others ticks bomb running clocks).elim
    · simp [Surroundings.adding, pickUps]

theorem Steady.brings_zero {s : Session} (h : s.Steady) : s.Brings 0 [] [] := by
  intro c
  have steady : (s.amid c).Steady := h.congr rfl rfl rfl rfl rfl
  rw [steady.passed_zero, h.passed_zero]
  simp [Surroundings.adding, pickUps]

/-- Time brings nothing to a session at rest. -/
theorem Resting.brings {s : Session} (h : s.Resting) (dt : Int) : s.Brings dt [] [] := by
  intro c
  have still : (s.amid c).Resting := ⟨h.buying, h.idle⟩
  rw [still.passed_eq, h.passed_eq]
  simp [Surroundings.adding, pickUps]

theorem Brings.unique {s : Session} {dt : Int} {found found' : List Int} {news news' : List Event}
    (h : s.Brings dt found news) (h' : s.Brings dt found' news') : found = found' ∧ news = news' := by
  have same := congrArg surroundings ((h s.surroundings).symm.trans (h' s.surroundings))
  have queues := congrArg Surroundings.queue same
  have outboxes := congrArg Surroundings.outbox same
  constructor
  · exact pickUps_injective (List.append_cancel_left queues)
  · exact List.append_cancel_left outboxes

theorem Brings.amid {s : Session} {dt : Int} {found : List Int} {news : List Event}
    (h : s.Brings dt found news) (c : Surroundings) : (s.amid c).Brings dt found news := by
  intro d
  rw [amid_amid, h d, h c, amid_amid]

theorem Brings.add {s : Session} (steady : s.Steady) {a b : Int} (a_nonneg : 0 ≤ a) (b_nonneg : 0 ≤ b)
    {found found' : List Int} {news news' : List Event} (h : s.Brings a found news)
    (h' : (s.passed a).Brings b found' news') :
    s.Brings (a + b) (found ++ found') (news ++ news') := by
  intro c
  have steady' : (s.amid c).Steady := steady.congr rfl rfl rfl rfl rfl
  rw [← steady'.passed_passed a_nonneg b_nonneg, ← steady.passed_passed a_nonneg b_nonneg, h c, h',
    Surroundings.adding_adding]

end Session

end RobotWorkshop
