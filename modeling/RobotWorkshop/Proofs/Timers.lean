import RobotWorkshop.Clock.Timer
import Mathlib

/-!
Timers in closed form.  A repeating timer of period `D` that has run for `e` since its last
completion completes, in a frame of length `dt`, at

    D - e, 2 D - e, …, k D - e      where k = (dt + e) / D

and stands at `(dt + e) % D` afterwards, however many of these are reported
(`Timer.advance_repeating`).  A one-shot timer completes once, at `D - e`
(`Timer.tick_of_lt`, `Timer.tick_oneShot_of_le`).  What either of them names before a frame is what
the frame reports first (`Timer.tick_head`).
-/

namespace RobotWorkshop

/-! ## Evenly spaced moments -/

/-- So many moments, the first at `first` and each other one `period` after the one before it. -/
def beats (first period : Int) : Nat → List Int
  | 0 => []
  | n + 1 => first :: beats (first + period) period n

theorem length_beats (first period : Int) (n : Nat) : (beats first period n).length = n := by
  induction n generalizing first with
  | zero => rfl
  | succ n ih => rw [beats, List.length_cons, ih]

theorem beats_add (first period : Int) (m n : Nat) :
    beats first period (m + n) = beats first period m ++ beats (first + m * period) period n := by
  induction m generalizing first with
  | zero => simp [beats]
  | succ m ih =>
    have next : first + period + m * period = first + ((m + 1 : Nat) : Int) * period := by
      push_cast
      ring
    rw [Nat.add_right_comm, beats, ih, beats, next, List.cons_append]

theorem mem_beats {first period x : Int} {n : Nat} :
    x ∈ beats first period n ↔ ∃ i : Nat, i < n ∧ x = first + i * period := by
  induction n generalizing first with
  | zero => simp [beats]
  | succ n ih =>
    rw [beats, List.mem_cons, ih]
    constructor
    · rintro (rfl | ⟨i, hi, rfl⟩)
      · exact ⟨0, by omega, by simp⟩
      · exact ⟨i + 1, by omega, by push_cast; ring⟩
    · rintro ⟨i, hi, rfl⟩
      cases i with
      | zero => left; simp
      | succ i => right; exact ⟨i, by omega, by push_cast; ring⟩

namespace Timer

/-! ## A new timer -/

/-- A timer at its start. -/
def fresh (duration : Int) (repeating : Bool) (pos : 0 < duration) : Timer :=
  { duration, repeating, duration_pos := pos }

theorem ofSeconds?_of_nanos {seconds : Float} {duration : Int} (repeating : Bool)
    (h : Nanos.ofSeconds? seconds = .ok duration) (pos : 0 < duration) :
    ofSeconds? seconds repeating = .ok (fresh duration repeating pos) := by
  unfold ofSeconds?
  rw [h]
  exact dif_pos pos

theorem ofSeconds?_eq_ok {seconds : Float} {repeating : Bool} {timer : Timer}
    (h : ofSeconds? seconds repeating = .ok timer) :
    ∃ duration, ∃ pos : 0 < duration,
      Nanos.ofSeconds? seconds = .ok duration ∧ timer = fresh duration repeating pos := by
  unfold ofSeconds? at h
  split at h
  · cases h
  · rename_i duration nanos
    split at h
    · rename_i pos
      exact ⟨duration, pos, nanos, (Except.ok.inj h).symm⟩
    · cases h

/-! ## A repeating timer -/

/-- How many of `k` completions are reported when there is room for that many. -/
def reported (room : Option Int) (k : Nat) : Nat := room.elim k fun r => min r.toNat k

theorem le_reported {room : Option Int} {m k : Nat} (le : m ≤ k)
    (enough : ∀ r, room = some r → (m : Int) ≤ r) : m ≤ reported room k := by
  cases room with
  | none => exact le
  | some r =>
    have := enough r rfl
    simp only [reported, Option.elim_some]
    omega

theorem reported_le (room : Option Int) (k : Nat) : reported room k ≤ k := by
  cases room with
  | none => exact Nat.le_refl k
  | some r => exact Nat.min_le_right _ _

/-- A period that is over takes one off the number of periods. -/
theorem periods_after (t : Timer) (left : Int) :
    (left + t.elapsed) / t.duration = (left - t.due) / t.duration + 1 ∧
      (left + t.elapsed) % t.duration = (left - t.due) % t.duration := by
  have split : left + t.elapsed = (left - t.due) + t.duration := by unfold due; omega
  have pos : t.duration ≠ 0 := by have := t.duration_pos; omega
  rw [split, Int.add_emod_right, Int.add_ediv_of_dvd_right (Int.dvd_refl _), Int.ediv_self pos]
  exact ⟨rfl, rfl⟩

/-- **Closed form.**  The completions of a repeating timer and where it stands afterwards.  The
number of reported completions has no influence on the timer. -/
theorem advance_repeating {t : Timer} (room : Option Int) (offset left : Int)
    (repeating : t.repeating = true) (elapsed_nonneg : 0 ≤ t.elapsed)
    (elapsed_lt : t.elapsed < t.duration) (left_nonneg : 0 ≤ left) :
    t.advance room offset left =
      (beats (offset + t.due) t.duration (reported room ((left + t.elapsed) / t.duration).toNat),
        { t with
          elapsed := (left + t.elapsed) % t.duration
          timesFinished := t.timesFinished + (left + t.elapsed) / t.duration }) := by
  -- the recursion starts over at each completion, with nothing elapsed and a place less to report
  fun_induction advance t room offset left with
  | case1 t room offset left due rep full =>
    obtain ⟨quotient, remainder⟩ := t.periods_after left
    have none_reported : reported room ((left + t.elapsed) / t.duration).toNat = 0 := by
      cases room with
      | none => simp at full
      | some r =>
        have : r ≤ 0 := by simpa using full
        simp only [reported, Option.elim_some]
        omega
    rw [none_reported, quotient, remainder, beats, Int.add_assoc, Int.add_comm 1]
  | case2 t room offset left due rep free rest ih =>
    obtain ⟨quotient, remainder⟩ := t.periods_after left
    have pos := t.duration_pos
    have left_after : 0 ≤ left - t.due := by omega
    have more : 0 ≤ (left - t.due) / t.duration := Int.ediv_nonneg left_after (by omega)
    have one_reported : reported room ((left + t.elapsed) / t.duration).toNat =
        reported (room.map (· - 1)) ((left - t.due) / t.duration).toNat + 1 := by
      rw [quotient]
      cases room with
      | none => simp only [reported, Option.map_none, Option.elim_none]; omega
      | some r =>
        have : ¬r ≤ 0 := by simpa using free
        simp only [reported, Option.map_some, Option.elim_some]
        omega
    have after : rest = (beats (offset + t.due + t.duration) t.duration
        (reported (room.map (· - 1)) ((left - t.due) / t.duration).toNat),
        { t with
          elapsed := (left - t.due) % t.duration
          timesFinished := t.timesFinished + 1 + (left - t.due) / t.duration }) := by
      refine (ih rep (Int.le_refl 0) pos left_after).trans ?_
      simp only [Timer.due, Int.sub_zero, Int.add_zero]
    have count : t.timesFinished + 1 + (left - t.due) / t.duration =
        t.timesFinished + ((left - t.due) / t.duration + 1) := by omega
    rw [after, one_reported, quotient, remainder, beats, count]
  | case3 t room offset left due once => exact absurd repeating once
  | case4 t room offset left notDue =>
    have less : left + t.elapsed < t.duration := by unfold due at notDue; omega
    have none_over : (left + t.elapsed) / t.duration = 0 := Int.ediv_eq_zero_of_lt (by omega) less
    have none_reported : reported room 0 = 0 := by cases room <;> simp [reported]
    rw [none_over, Int.emod_eq_of_lt (by omega) less, Int.toNat_zero, none_reported, beats,
      Int.add_zero, Int.add_comm left]

theorem tick_repeating {t : Timer} {dt : Int} (limit : Option Int) (running : t.running = true)
    (repeating : t.repeating = true) (elapsed_nonneg : 0 ≤ t.elapsed)
    (elapsed_lt : t.elapsed < t.duration) (dt_nonneg : 0 ≤ dt) :
    t.tick dt limit =
      .ok (beats t.due t.duration (reported limit ((dt + t.elapsed) / t.duration).toNat),
        { t with
          elapsed := (dt + t.elapsed) % t.duration
          timesFinished := t.timesFinished + (dt + t.elapsed) / t.duration }) := by
  unfold tick
  rw [if_neg (by omega), if_pos running,
    advance_repeating limit 0 dt repeating elapsed_nonneg elapsed_lt dt_nonneg, Int.zero_add]

/-! ## A one-shot timer -/

theorem tick_of_lt {t : Timer} {dt : Int} (limit : Option Int) (running : t.running = true)
    (dt_nonneg : 0 ≤ dt) (early : dt < t.due) :
    t.tick dt limit = .ok ([], { t with elapsed := t.elapsed + dt }) := by
  unfold tick advance
  rw [if_neg (by omega), if_pos running, if_neg (by omega)]

theorem tick_oneShot_of_le {t : Timer} {dt : Int} (limit : Option Int) (running : t.running = true)
    (once : t.repeating = false) (dt_nonneg : 0 ≤ dt) (due : t.due ≤ dt) :
    t.tick dt limit =
      .ok ([t.due], { t with
        elapsed := t.duration
        running := false
        timesFinished := t.timesFinished + 1 }) := by
  unfold tick advance
  rw [if_neg (by omega), if_pos running, if_pos due, if_neg (by simp [once]), Int.zero_add]

theorem expiryOffset_of_lt {t : Timer} {dt : Int} (early : dt < t.due) :
    t.expiryOffset dt = none := by
  unfold expiryOffset
  rw [if_neg (by omega)]

theorem expiryOffset_of_le {t : Timer} {dt : Int} (running : t.running = true)
    (due : t.due ≤ dt) : t.expiryOffset dt = some t.due := by
  unfold expiryOffset
  rw [if_pos ⟨running, due⟩]

/-! ## A stopped timer -/

theorem tick_of_stopped {t : Timer} {dt : Int} (limit : Option Int) (stopped : t.running = false)
    (dt_nonneg : 0 ≤ dt) : t.tick dt limit = .ok ([], t) := by
  unfold tick
  rw [if_neg (by omega), if_neg (by simp [stopped])]

theorem expiryOffset_of_stopped {t : Timer} (stopped : t.running = false) (dt : Int) :
    t.expiryOffset dt = none := by
  unfold expiryOffset
  rw [if_neg (by simp [stopped])]

/-! ## The next completion -/

theorem nonneg_of_tick {t : Timer} {dt : Int} {limit : Option Int} {answer : List Int × Timer}
    (ticked : t.tick dt limit = .ok answer) : 0 ≤ dt := by
  unfold tick at ticked
  split at ticked
  · cases ticked
  · omega

/-- A frame that is long enough reports first what is due first, and a repeating timer others after
it. -/
theorem tick_of_le {t : Timer} {dt : Int} (running : t.running = true) (dt_nonneg : 0 ≤ dt)
    (due : t.due ≤ dt) :
    ∃ others after, t.tick dt none = .ok (t.due :: others, after) := by
  cases repeating : t.repeating with
  | false => exact ⟨_, _, tick_oneShot_of_le none running repeating dt_nonneg due⟩
  | true =>
    unfold tick advance
    rw [if_neg (by omega), if_pos running, if_pos due, if_pos repeating, if_neg (by simp), Int.zero_add]
    exact ⟨_, _, rfl⟩

/-- **What a timer foretells.**  The completion that it names for a frame is the first that the
frame reports. -/
theorem tick_head (t : Timer) {dt : Int} (dt_nonneg : 0 ≤ dt) :
    ∃ offsets after, t.tick dt none = .ok (offsets, after) ∧ t.expiryOffset dt = offsets.head? := by
  cases running : t.running with
  | false => exact ⟨_, _, tick_of_stopped none running dt_nonneg, expiryOffset_of_stopped running dt⟩
  | true =>
    rcases Int.lt_or_le dt t.due with early | due
    · exact ⟨_, _, tick_of_lt none running dt_nonneg early, expiryOffset_of_lt early⟩
    · obtain ⟨others, after, ticked⟩ := tick_of_le running dt_nonneg due
      exact ⟨_, _, ticked, expiryOffset_of_le running due⟩

end Timer

end RobotWorkshop
