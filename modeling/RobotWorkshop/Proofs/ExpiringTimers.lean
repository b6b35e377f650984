import RobotWorkshop.Proofs.RepeatingTimers

/-!
Timers from their making on, whatever frames they are run for.  While it runs, a timer stands before
its next completion (`Timer.Reachable.onTime`), so what it names for a frame falls inside the
frame.  A one-shot timer that has `d` nanoseconds to go reports, in frames that last for `total`
nanoseconds together,

    nothing               if total < d       (Timer.Pending.timeline_of_lt)
    the moment d, once    if d ≤ total       (Timer.Pending.timeline_of_le)

however the time is cut into frames, and is inert after that moment.
-/

namespace RobotWorkshop

namespace Timer

variable {t after : Timer} {dt : Int} {limit : Option Int} {offsets : List Int}

/-! ## The timers that there can be -/

/-- A timer is made, then run for frames and stopped in any order.  A frame that is refused leaves
it alone. -/
inductive Reachable : Timer → Prop where
  | made {seconds : Float} {repeating : Bool} {t : Timer} :
      ofSeconds? seconds repeating = .ok t → Reachable t
  | tick {t after : Timer} {dt : Int} {limit : Option Int} {offsets : List Int} :
      Reachable t → t.tick dt limit = .ok (offsets, after) → Reachable after
  | stop {t : Timer} : Reachable t → Reachable t.stop

/-- While it runs, a timer stands before its next completion. -/
def OnTime (t : Timer) : Prop := t.running = true → 0 ≤ t.elapsed ∧ t.elapsed < t.duration

/-- **Step lemma.**  A frame leaves a timer on time or stopped. -/
theorem OnTime.tick (onTime : t.OnTime) (ticked : t.tick dt limit = .ok (offsets, after)) :
    after.OnTime := by
  have dt_nonneg := nonneg_of_tick ticked
  intro stillRuns
  cases running : t.running with
  | false =>
    rw [tick_of_stopped limit running dt_nonneg] at ticked
    cases ticked
    exact onTime stillRuns
  | true =>
    obtain ⟨elapsed_nonneg, elapsed_lt⟩ := onTime running
    cases repeating : t.repeating with
    | true =>
      have cycling : t.Cycling := ⟨running, repeating, elapsed_nonneg, elapsed_lt⟩
      rw [cycling.tick_eq limit dt_nonneg] at ticked
      cases ticked
      exact ⟨(cycling.spun dt).elapsed_nonneg, (cycling.spun dt).elapsed_lt⟩
    | false =>
      rcases Int.lt_or_le dt t.due with early | due
      · rw [tick_of_lt limit running dt_nonneg early] at ticked
        cases ticked
        unfold Timer.due at early
        show 0 ≤ t.elapsed + dt ∧ t.elapsed + dt < t.duration
        omega
      · -- it has completed and does not run any more
        rw [tick_oneShot_of_le limit running repeating dt_nonneg due] at ticked
        cases ticked
        cases stillRuns

/-- **Run lemma.**  A timer is on time after any history. -/
theorem Reachable.onTime (reachable : t.Reachable) : t.OnTime := by
  induction reachable with
  | made made =>
    obtain ⟨duration, pos, -, rfl⟩ := ofSeconds?_eq_ok made
    exact fun _ => ⟨Int.le_refl 0, pos⟩
  | tick _ ticked ih => exact ih.tick ticked
  | stop _ _ => exact nofun

/-- The completion that is foretold falls inside the frame, never on its start. -/
theorem Reachable.inside (reachable : t.Reachable) {offset : Int}
    (foretold : t.expiryOffset dt = some offset) :
    0 < offset ∧ offset ≤ dt := by
  unfold expiryOffset at foretold
  split at foretold
  · rename_i due
    obtain ⟨running, in_frame⟩ := due
    cases foretold
    have := reachable.onTime running
    unfold Timer.due at *
    omega
  · cases foretold

/-! ## A one-shot timer over many frames -/

/-- The completions that frames of these lengths report, each with its limit, as moments of a clock
that shows `now` when the first frame begins, and the timer after them. -/
def timeline (t : Timer) (now : Int) : List (Int × Option Int) → Except Fault (List Int × Timer)
  | [] => .ok ([], t)
  | (dt, limit) :: frames => do
    let (offsets, t) ← t.tick dt limit
    let (later, t) ← t.timeline (now + dt) frames
    return (offsets.map (now + ·) ++ later, t)

theorem timeline_cons {now : Int} {frames : List (Int × Option Int)} {later : List Int} {last : Timer}
    (ticked : t.tick dt limit = .ok (offsets, after))
    (rest : after.timeline (now + dt) frames = .ok (later, last)) :
    t.timeline now ((dt, limit) :: frames) = .ok (offsets.map (now + ·) ++ later, last) := by
  rw [timeline, ticked]
  show (after.timeline (now + dt) frames >>= _) = _
  rw [rest]
  rfl

/-- A timer that has nothing more to say. -/
structure Inert (t : Timer) : Prop where
  remaining : t.remaining = 0
  tick : ∀ dt limit, 0 ≤ dt → t.tick dt limit = .ok ([], t)
  expiryOffset : ∀ dt, t.expiryOffset dt = none

theorem inert_of_stopped (stopped : t.running = false) : t.Inert where
  remaining := by simp [Timer.remaining, stopped]
  tick _ limit dt_nonneg := tick_of_stopped limit stopped dt_nonneg
  expiryOffset := expiryOffset_of_stopped stopped

/-- A one-shot timer that has still to complete. -/
structure Pending (t : Timer) : Prop where
  running : t.running = true
  once : t.repeating = false
  due_pos : 0 < t.due

/-- The timer when so much more time is over and it has not come to its end. -/
def lapsed (t : Timer) (time : Int) : Timer := { t with elapsed := t.elapsed + time }

/-- The timer once its time is over. -/
def expired (t : Timer) : Timer :=
  { t with elapsed := t.duration, running := false, timesFinished := t.timesFinished + 1 }

theorem lapsed_zero (t : Timer) : t.lapsed 0 = t := by
  unfold lapsed
  rw [Int.add_zero]

theorem lapsed_lapsed (t : Timer) (time more : Int) :
    (t.lapsed time).lapsed more = t.lapsed (time + more) := by
  unfold lapsed
  rw [← Int.add_assoc]

theorem due_lapsed (t : Timer) (time : Int) : (t.lapsed time).due = t.due - time := by
  show t.duration - (t.elapsed + time) = t.duration - t.elapsed - time
  omega

theorem expired_inert (t : Timer) : t.expired.Inert := inert_of_stopped rfl

theorem Pending.lapsed (pending : t.Pending) {time : Int} (early : time < t.due) :
    (t.lapsed time).Pending where
  running := pending.running
  once := pending.once
  due_pos := by rw [due_lapsed]; omega

section Timeline

variable {frames : List (Int × Option Int)}

theorem Inert.timeline (inert : t.Inert) (now : Int) (nonneg : ∀ frame ∈ frames, 0 ≤ frame.1) :
    t.timeline now frames = .ok ([], t) := by
  induction frames generalizing now with
  | nil => rfl
  | cons frame frames ih =>
    obtain ⟨dt, limit⟩ := frame
    obtain ⟨dt_nonneg, nonneg⟩ : 0 ≤ dt ∧ ∀ frame ∈ frames, 0 ≤ frame.1 :=
      List.forall_mem_cons.mp nonneg
    exact timeline_cons (inert.tick dt limit dt_nonneg) (ih (now + dt) nonneg)

/-- Frames that are over before the timer is due report nothing. -/
theorem Pending.timeline_of_lt (pending : t.Pending) (now : Int)
    (nonneg : ∀ frame ∈ frames, 0 ≤ frame.1) (early : (frames.map (·.1)).sum < t.due) :
    t.timeline now frames = .ok ([], t.lapsed (frames.map (·.1)).sum) := by
  induction frames generalizing t now with
  | nil =>
    rw [List.map_nil, List.sum_nil, lapsed_zero]
    rfl
  | cons frame frames ih =>
    obtain ⟨dt, limit⟩ := frame
    obtain ⟨dt_nonneg, nonneg⟩ : 0 ≤ dt ∧ ∀ frame ∈ frames, 0 ≤ frame.1 :=
      List.forall_mem_cons.mp nonneg
    have rest_nonneg : 0 ≤ (frames.map (·.1)).sum := List.sum_nonneg (List.forall_mem_map.mpr nonneg)
    rw [List.map_cons, List.sum_cons] at early ⊢
    have first_early : dt < t.due := by omega
    have ticked := tick_of_lt limit pending.running dt_nonneg first_early
    have rest := ih (pending.lapsed first_early) (now + dt) nonneg (by rw [due_lapsed]; omega)
    rw [← lapsed_lapsed]
    exact timeline_cons ticked rest

/-- **A one-shot timer completes once**, when the frames have lasted for as long as it had to go. -/
theorem Pending.timeline_of_le (pending : t.Pending) (now : Int)
    (nonneg : ∀ frame ∈ frames, 0 ≤ frame.1) (enough : t.due ≤ (frames.map (·.1)).sum) :
    t.timeline now frames = .ok ([now + t.due], t.expired) := by
  induction frames generalizing t now with
  | nil =>
    rw [List.map_nil, List.sum_nil] at enough
    exact absurd pending.due_pos (Int.not_lt.mpr enough)
  | cons frame frames ih =>
    obtain ⟨dt, limit⟩ := frame
    obtain ⟨dt_nonneg, nonneg⟩ : 0 ≤ dt ∧ ∀ frame ∈ frames, 0 ≤ frame.1 :=
      List.forall_mem_cons.mp nonneg
    rw [List.map_cons, List.sum_cons] at enough
    rcases Int.lt_or_le dt t.due with early | due
    · have ticked := tick_of_lt limit pending.running dt_nonneg early
      have rest := ih (pending.lapsed early) (now + dt) nonneg (by rw [due_lapsed]; omega)
      have moment : now + t.due = now + dt + (t.lapsed dt).due := by rw [due_lapsed]; omega
      rw [moment]
      exact timeline_cons ticked rest
    · -- it completes in this frame, and the others find it inert
      have ticked := tick_oneShot_of_le limit pending.running pending.once dt_nonneg due
      exact timeline_cons ticked (t.expired_inert.timeline (now + dt) nonneg)

end Timeline

/-- **Timers complete as they foretell, one-shot timers once.**  What a timer names before a frame
is what the frame reports first, and it names nothing just if the frame reports nothing.  A one-shot
timer reports nothing until the frames have lasted for its duration, then that moment alone, and is
inert from there on. -/
theorem completes_as_foretold :
    (∀ t : Timer, t.Reachable → ∀ dt, 0 ≤ dt →
      ∃ offsets after, t.tick dt none = .ok (offsets, after) ∧
        t.expiryOffset dt = offsets.head? ∧ (t.expiryOffset dt = none ↔ offsets = []) ∧
        ∀ offset, t.expiryOffset dt = some offset → 0 < offset ∧ offset ≤ dt) ∧
    (∀ seconds t, ofSeconds? seconds false = .ok t →
      ∀ frames : List (Int × Option Int), (∀ frame ∈ frames, 0 ≤ frame.1) →
        let total := (frames.map (·.1)).sum
        ∃ reports after, t.timeline 0 frames = .ok (reports, after) ∧
          (total < t.duration → reports = [] ∧ after.elapsed = total ∧ after.running = true) ∧
          (t.duration ≤ total →
            reports = [t.duration] ∧ after.elapsed = t.duration ∧ after.timesFinished = 1 ∧
              after.Inert)) := by
  constructor
  · intro t reachable dt dt_nonneg
    obtain ⟨offsets, after, ticked, foretold⟩ := t.tick_head dt_nonneg
    refine ⟨offsets, after, ticked, foretold, ?_, fun _ => reachable.inside⟩
    rw [foretold, List.head?_eq_none_iff]
  · intro seconds t made frames nonneg total
    obtain ⟨duration, pos, -, rfl⟩ := ofSeconds?_eq_ok made
    have due : (fresh duration false pos).due = duration := Int.sub_zero duration
    have pending : (fresh duration false pos).Pending := ⟨rfl, rfl, by rw [due]; exact pos⟩
    rcases Int.lt_or_le total duration with early | enough
    · refine ⟨_, _, pending.timeline_of_lt 0 nonneg (by rw [due]; exact early), ?_, ?_⟩
      · exact fun _ => ⟨rfl, Int.zero_add total, rfl⟩
      · exact fun enough => absurd early (Int.not_lt.mpr enough)
    · refine ⟨_, _, pending.timeline_of_le 0 nonneg (by rw [due]; exact enough), ?_, ?_⟩
      · exact fun early => absurd early (Int.not_lt.mpr enough)
      · intro _
        refine ⟨?_, rfl, rfl, expired_inert _⟩
        rw [due, Int.zero_add]
        rfl

/-- A repeating timer that has completed more often than it was asked to say, and a one-shot timer
that is due in the middle of a frame in which nothing is asked for. -/
theorem completes_as_foretold_two_timers :
    let cycle : Timer :=
      { duration := 100000000, repeating := true, elapsed := 50000000, timesFinished := 3,
        duration_pos := by decide }
    let fuse : Timer := { duration := 500000000, repeating := false, duration_pos := by decide }
    let frames : List (Int × Option Int) :=
      [(300000000, none), (300000000, some 0), (10000000000, none)]
    (cycle.Reachable ∧ (0 : Int) ≤ 250000000 ∧
      ∃ others after, cycle.tick 250000000 none = .ok (50000000 :: others, after)) ∧
    (ofSeconds? 0.5 false = .ok fuse ∧ (∀ frame ∈ frames, 0 ≤ frame.1) ∧
      ∃ after, fuse.timeline 0 frames = .ok ([500000000], after) ∧
        after.elapsed = 500000000 ∧ after.Inert) := by
  intro cycle fuse frames
  have cycle_reachable : cycle.Reachable := by
    have made : ofSeconds? 0.1 true = .ok (fresh 100000000 true (by decide)) :=
      ofSeconds?_of_nanos true (by decide +kernel) (by decide)
    have dt_nonneg : (0 : Int) ≤ 350000000 := by decide
    have ticked := (ofSeconds?_cycling made).tick_eq (some 2) dt_nonneg
    exact .tick (.made made) ticked
  have fuse_made : ofSeconds? 0.5 false = .ok fuse :=
    ofSeconds?_of_nanos false (by decide +kernel) (by decide)
  have frames_nonneg : ∀ frame ∈ frames, 0 ≤ frame.1 := by decide
  refine ⟨⟨cycle_reachable, by decide, ?_⟩, fuse_made, frames_nonneg, ?_⟩
  · obtain ⟨offsets, after, ticked, foretold, -⟩ :=
      completes_as_foretold.1 cycle cycle_reachable 250000000 (by decide)
    obtain ⟨others, rfl⟩ := List.head?_eq_some_iff.mp foretold.symm
    exact ⟨others, after, ticked⟩
  · obtain ⟨reports, after, told, -, enough⟩ :=
      completes_as_foretold.2 0.5 fuse fuse_made frames frames_nonneg
    obtain ⟨rfl, elapsed, -, inert⟩ := enough (by decide)
    exact ⟨after, told, elapsed, inert⟩

end Timer

end RobotWorkshop
