import RobotWorkshop.Proofs.Timers

/-!
Repeating timers as their host drives them.  With `e` nanoseconds elapsed of a period `D`, a frame
of length `dt` in which at most `limit` completions are asked for reports

    D - e, 2 D - e, …, m D - e       where k = (e + dt) / D  and  m = min (max limit 0) k

and leaves `(e + dt) % D` nanoseconds elapsed and `k` more completions counted, reported or not
(`Timer.tick_reports`).  So what is asked for never shows in the timer: after any frames it stands
where one frame of their total length would have left it (`Timer.driven_eq`).
-/

namespace RobotWorkshop

/-! ## Evenly spaced moments, all at once -/

theorem beats_eq_map (first period : Int) (n : Nat) :
    beats first period n = (List.range n).map fun i : Nat => first + i * period := by
  induction n generalizing first with
  | zero => rfl
  | succ n ih =>
    rw [beats, ih, List.range_succ_eq_map, List.map_cons, List.map_map]
    congr 1
    · simp
    · refine List.map_congr_left fun i _ => ?_
      simp only [Function.comp_apply]
      push_cast
      ring

theorem beats_pairwise_lt {period : Int} (pos : 0 < period) (first : Int) (n : Nat) :
    (beats first period n).Pairwise (· < ·) := by
  rw [beats_eq_map, List.pairwise_map]
  refine List.pairwise_lt_range.imp fun {i j} lt => ?_
  have := Int.mul_lt_mul_of_pos_right (Int.ofNat_lt.mpr lt) pos
  omega

namespace Timer

/-- A repeating timer somewhere between two of its completions. -/
structure Cycling (t : Timer) : Prop where
  running : t.running = true
  repeating : t.repeating = true
  elapsed_nonneg : 0 ≤ t.elapsed
  elapsed_lt : t.elapsed < t.duration

/-- The timer after so much more time. -/
def spun (t : Timer) (time : Int) : Timer :=
  { t with
    elapsed := (t.elapsed + time) % t.duration
    timesFinished := t.timesFinished + (t.elapsed + time) / t.duration }

theorem ofSeconds?_cycling {seconds : Float} {t : Timer} (made : ofSeconds? seconds true = .ok t) :
    t.Cycling := by
  obtain ⟨duration, pos, -, rfl⟩ := ofSeconds?_eq_ok made
  exact ⟨rfl, rfl, Int.le_refl 0, pos⟩

variable {t : Timer}

theorem Cycling.spun (h : t.Cycling) (time : Int) : (t.spun time).Cycling where
  running := h.running
  repeating := h.repeating
  elapsed_nonneg := Int.emod_nonneg _ (Int.ne_of_gt t.duration_pos)
  elapsed_lt := Int.emod_lt_of_pos _ t.duration_pos

theorem Cycling.spun_zero (h : t.Cycling) : t.spun 0 = t := by
  unfold Timer.spun
  rw [Int.add_zero, Int.emod_eq_of_lt h.elapsed_nonneg h.elapsed_lt,
    Int.ediv_eq_zero_of_lt h.elapsed_nonneg h.elapsed_lt, Int.add_zero]

theorem spun_spun (t : Timer) (time more : Int) : (t.spun time).spun more = t.spun (time + more) := by
  have pos : t.duration ≠ 0 := Int.ne_of_gt t.duration_pos
  -- the periods of the first span are over, and what is left of it goes into the second
  have split : t.elapsed + (time + more) =
      (t.elapsed + time) % t.duration + more + (t.elapsed + time) / t.duration * t.duration := by
    have := Int.emod_add_ediv_mul (t.elapsed + time) t.duration
    omega
  unfold spun
  dsimp only
  rw [split, Int.add_mul_emod_self_right, Int.add_mul_ediv_right _ _ pos, Int.add_assoc,
    Int.add_comm (_ / _)]

/-! ## One frame -/

theorem Cycling.tick_eq (h : t.Cycling) (limit : Option Int) {dt : Int} (dt_nonneg : 0 ≤ dt) :
    t.tick dt limit =
      .ok (beats t.due t.duration (reported limit ((t.elapsed + dt) / t.duration).toNat),
        t.spun dt) := by
  unfold Timer.spun
  rw [tick_repeating limit h.running h.repeating h.elapsed_nonneg h.elapsed_lt dt_nonneg,
    Int.add_comm dt]

/-- A limit that is absent takes everything, and one below zero nothing. -/
theorem reported_toNat (limit : Option Int) {k : Int} (k_nonneg : 0 ≤ k) :
    reported limit k.toNat = (limit.elim k fun l => min (max l 0) k).toNat := by
  cases limit with
  | none => rfl
  | some l =>
    simp only [reported, Option.elim_some]
    omega

/-- **A frame of a repeating timer.**  The reported completions, in order and inside the frame, are
the first ones, and the timer has counted all of them.  A frame of negative length is refused: the
answer holds no timer that could differ. -/
theorem tick_reports (cycling : t.Cycling) (limit : Option Int) (dt : Int) :
    (0 ≤ dt →
      let k := (t.elapsed + dt) / t.duration
      let m := limit.elim k fun l => min (max l 0) k
      ∃ offsets after, t.tick dt limit = .ok (offsets, after) ∧
        offsets = (List.range m.toNat).map (fun i : Nat => (i + 1) * t.duration - t.elapsed) ∧
        offsets.Pairwise (· < ·) ∧ (∀ offset ∈ offsets, 0 < offset ∧ offset ≤ dt) ∧
        after = { t with
          elapsed := (t.elapsed + dt) % t.duration
          timesFinished := t.timesFinished + k } ∧
        after.Cycling) ∧
    (dt < 0 → t.tick dt limit = .error .negativeDelta) := by
  have pos := t.duration_pos
  have elapsed_lt := cycling.elapsed_lt
  have elapsed_nonneg := cycling.elapsed_nonneg
  constructor
  · intro dt_nonneg k m
    have k_nonneg : 0 ≤ k := Int.ediv_nonneg (by omega) (by omega)
    refine ⟨_, _, cycling.tick_eq limit dt_nonneg, ?_, beats_pairwise_lt pos _ _, ?_, rfl,
      cycling.spun dt⟩
    · rw [beats_eq_map, reported_toNat limit k_nonneg]
      refine List.map_congr_left fun i _ => ?_
      unfold due
      ring
    · intro offset mem
      obtain ⟨i, i_lt, rfl⟩ := mem_beats.mp mem
      have i_lt_k : (i : Int) + 1 ≤ k := by
        have all : reported limit k.toNat ≤ k.toNat := reported_le limit k.toNat
        have : i < k.toNat := Nat.lt_of_lt_of_le i_lt all
        omega
      have first : 0 ≤ (i : Int) * t.duration := Int.mul_nonneg (by omega) (by omega)
      have last : ((i : Int) + 1) * t.duration ≤ t.elapsed + dt :=
        Int.le_trans (Int.mul_le_mul_of_nonneg_right i_lt_k (by omega)) (Int.ediv_mul_le _ (by omega))
      rw [Int.add_mul, Int.one_mul] at last
      unfold due
      omega
  · intro negative
    exact if_pos negative

/-- A limit in the middle: three completions, two of them reported. -/
theorem tick_reports_two_of_three :
    let t : Timer := { duration := 100, repeating := true, elapsed := 30, timesFinished := 5,
                       duration_pos := by decide }
    t.Cycling ∧
      ∃ after, t.tick 350 (some 2) = .ok ([70, 170], after) ∧ after.elapsed = 80 ∧
        after.timesFinished = 8 := by
  intro t
  have cycling : t.Cycling := ⟨rfl, rfl, by decide, by decide⟩
  obtain ⟨offsets, after, ticked, same, -, -, left, -⟩ :=
    (tick_reports cycling (some 2) 350).1 (by decide)
  refine ⟨cycling, after, ?_, by simp [left, t], by simp [left, t]⟩
  rw [ticked, same]
  rfl

/-! ## Many frames -/

/-- The timer after frames of these lengths, each with its limit.  A frame that is refused leaves
the timer alone. -/
def driven (t : Timer) : List (Int × Option Int) → Timer
  | [] => t
  | (dt, limit) :: frames => ((t.tick dt limit).toOption.elim t (·.2)).driven frames

/-- **A repeating timer does not drift.**  However the time is cut into frames and whatever is asked
for in them, the timer stands where one frame would have left it. -/
theorem driven_eq (cycling : t.Cycling) {frames : List (Int × Option Int)}
    (nonneg : ∀ frame ∈ frames, 0 ≤ frame.1) :
    t.driven frames = t.spun (frames.map (·.1)).sum := by
  induction frames generalizing t with
  | nil => exact cycling.spun_zero.symm
  | cons frame frames ih =>
    obtain ⟨dt, limit⟩ := frame
    have first : 0 ≤ dt := nonneg (dt, limit) List.mem_cons_self
    rw [driven, cycling.tick_eq limit first, List.map_cons, List.sum_cons, ← spun_spun]
    exact ih (cycling.spun dt) fun frame mem => nonneg frame (List.mem_cons_of_mem _ mem)

end Timer

end RobotWorkshop
