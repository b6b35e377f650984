import RobotWorkshop.CommandLine.Reply
import RobotWorkshop.Proofs.Refusals
import RobotWorkshop.Proofs.RootedTrees
import RobotWorkshop.Proofs.ScriptedRuns

/-!
When the loop of a scripted run ends.  It looks at two clocks: the nanoseconds of the run, of which
a frame takes `dt`, and the seconds that it has waited, a sum in floating point.  It stops after the
first `k` frames with

    finish ≤ k dt   or   not waited k < max_run_seconds        (ScriptSettings.StopsAfter)

so it ends if `dt` is positive, and if the second clock gets there; otherwise it goes on for ever,
and a length that is negative or none at all stops it with a fault (`Session.loop_ends_iff`).
-/

namespace RobotWorkshop

/-! ## Two clocks -/

namespace ScriptSettings

variable {pace : ScriptSettings} {finish dt : Int} {k : Nat}

/-- A run of `finish` nanoseconds goes on for another frame after so many, and there is time for it.
-/
def GoesOn (pace : ScriptSettings) (finish dt : Int) (k : Nat) : Prop :=
  k * dt < finish ∧ pace.waited 0.0 k < pace.maxRunSeconds

/-- The loop of such a run stops after so many frames, and not before. -/
structure StopsAfter (pace : ScriptSettings) (finish dt : Int) (k : Nat) : Prop where
  goes_on : ∀ j < k, pace.GoesOn finish dt j
  stops : ¬pace.GoesOn finish dt k

theorem stopsAfter_or (pace : ScriptSettings) (finish dt : Int) (n : Nat) :
    (∃ k < n, pace.StopsAfter finish dt k) ∨ ∀ j < n, pace.GoesOn finish dt j := by
  induction n with
  | zero => exact .inr fun j lt => absurd lt (Nat.not_lt_zero j)
  | succ n ih =>
    rcases ih with ⟨k, lt, stops⟩ | goes_on
    · exact .inl ⟨k, Nat.lt_succ_of_lt lt, stops⟩
    · by_cases still : pace.GoesOn finish dt n
      · refine .inr fun j lt => ?_
        rcases Nat.lt_succ_iff_lt_or_eq.mp lt with before | rfl
        · exact goes_on j before
        · exact still
      · exact .inl ⟨n, Nat.lt_succ_self n, goes_on, still⟩

/-- Nothing is waited in frames of no time. -/
theorem waited_of_zero (none : pace.frameDt = 0.0) (k : Nat) : pace.waited 0.0 k = 0.0 := by
  have still : (0.0 : Float) + 0.0 = 0.0 := by decide +kernel
  unfold waited
  rw [none]
  exact Function.iterate_fixed (f := (· + (0.0 : Float))) still k

/-- Frames that take time come to an end of the run. -/
theorem exists_stopsAfter (pace : ScriptSettings) (finish : Int) (pos : 0 < dt) :
    ∃ k, pace.StopsAfter finish dt k := by
  rcases pace.stopsAfter_or finish dt (finish.toNat + 1) with ⟨k, -, stops⟩ | goes_on
  · exact ⟨k, stops⟩
  · have enough : finish ≤ finish.toNat * dt := by nlinarith [Int.self_le_toNat finish]
    exact absurd (goes_on _ (Nat.lt_succ_self _)).1 (not_lt.mpr enough)

/-- Frames that take no time do not, but the time for it may be up some day. -/
theorem stops_iff (pace : ScriptSettings) (unfinished : 0 < finish) :
    0 ≤ dt ∧ (∃ k, pace.StopsAfter finish dt k) ↔
      0 < dt ∨ dt = 0 ∧ ∃ k, ¬pace.waited 0.0 k < pace.maxRunSeconds := by
  have still : ∀ k : Nat, k * 0 < finish := fun k => by rwa [Int.mul_zero]
  constructor
  · rintro ⟨nonneg, k, stops⟩
    rcases nonneg.eq_or_lt with rfl | pos
    · exact .inr ⟨rfl, k, fun in_time => stops.stops ⟨still k, in_time⟩⟩
    · exact .inl pos
  · rintro (pos | ⟨rfl, k, late⟩)
    · exact ⟨pos.le, pace.exists_stopsAfter finish pos⟩
    · refine ⟨Int.le_refl 0, ?_⟩
      rcases pace.stopsAfter_or finish 0 (k + 1) with ⟨k, -, stops⟩ | goes_on
      · exact ⟨k, stops⟩
      · exact absurd (goes_on k (Nat.lt_succ_self k)).2 late

end ScriptSettings

namespace Session

variable {level : Level} {s t u w : Session} {c : Course} {events : List Event}
  {pace : ScriptSettings} {frames run k : Nat} {dt : Int}

/-! ## The loop -/

theorem Launched.framed_running (h : Launched level s c t w) (nonneg : 0 ≤ dt) (k : Nat) :
    (t.framed dt k).running = true ↔ k * dt < c.finish := by
  constructor
  · intro running
    by_contra finished
    rw [h.is_over dt k nonneg (not_lt.mp finished), h.between.buying] at running
    cases running
  · intro before
    show (t.framed dt k).phases.running = true
    rw [(h.goes_on dt k nonneg before).1]
    rfl

theorem Launched.waits_iff (h : Launched level s c t w) (nonneg : 0 ≤ dt) (k : Nat) :
    (t.framed dt k).Waits pace (pace.waited 0.0 k) ↔ pace.GoesOn c.finish dt k :=
  and_congr_left' (h.framed_running nonneg k)

section
variable (h : Launched level s c t w)
include h

theorem Launched.passFrames_gives (nanos : Nanos.ofSeconds? pace.frameDt = .ok dt) (nonneg : 0 ≤ dt)
    (stops : pace.StopsAfter c.finish dt k) (enough : k < frames) :
    (t.passFrames pace frames 0.0 []).Gives (pace.waited 0.0 k) (t.framed dt k) :=
  h.steady.passFrames_gives nanos nonneg h.clear h.answerable enough
    (fun j lt => (h.waits_iff nonneg j).mpr (stops.goes_on j lt))
    (fun waits => stops.stops ((h.waits_iff nonneg k).mp waits)) []

theorem Launched.passFrames_spent (nanos : Nanos.ofSeconds? pace.frameDt = .ok dt) (nonneg : 0 ≤ dt)
    (goes_on : ∀ j < frames, pace.GoesOn c.finish dt j) :
    (t.passFrames pace frames 0.0 []).result = .error .framesSpent :=
  h.steady.passFrames_spent nanos nonneg h.clear h.answerable
    (fun j lt => (h.waits_iff nonneg j).mpr (goes_on j lt)) []

/-- A loop that has nothing to wait for lets no frame pass, whatever its length. -/
theorem Launched.passFrames_at_once (stops : ¬pace.GoesOn c.finish 0 0) (n : Nat) :
    (t.passFrames pace (n + 1) 0.0 []).Gives 0.0 t := by
  have still : ¬t.Waits pace 0.0 := fun waits => stops ((h.waits_iff (Int.le_refl 0) 0).mp waits)
  rw [passFrames_of_not_waits n still]
  exact Attempt.gives_done _ _ _

/-- A frame whose length cannot be converted, or is negative, is a fault. -/
theorem Launched.passFrames_fails (goes_on : pace.GoesOn c.finish 0 0)
    (bad : ∀ dt, Nanos.ofSeconds? pace.frameDt = .ok dt → dt < 0) (n : Nat) :
    ∃ fault, (t.passFrames pace (n + 1) 0.0 []).result = .error fault ∧
      (Nanos.ofSeconds? pace.frameDt = .error fault ∨
        (∃ dt, Nanos.ofSeconds? pace.frameDt = .ok dt) ∧ fault = .negativeDelta) := by
  have waits : t.Waits pace 0.0 := (h.waits_iff (Int.le_refl 0) 0).mpr goes_on
  obtain ⟨ticks, bomb, inRun⟩ := h.steady.inRun waits.1
  obtain ⟨-, fault, failed, cause⟩ := inRun.runStage_fails bad
  exact ⟨fault, passFrames_of_fault n waits (update_of_stage_error failed).1, cause⟩

end

/-- A loop that ends without a fault stops for one of its two reasons. -/
theorem Launched.passFrames_inv (h : Launched level s c t w) {waited : Float}
    (loop : (t.passFrames pace frames 0.0 []).Gives waited u) :
    ∃ dt k, 0 ≤ dt ∧ (k = 0 ∨ Nanos.ofSeconds? pace.frameDt = .ok dt) ∧
      pace.StopsAfter c.finish dt k ∧ u = t.framed dt k := by
  obtain ⟨n, rfl⟩ : ∃ n, frames = n + 1 := by
    cases frames with
    | zero => cases loop.result
    | succ n => exact ⟨n, rfl⟩
  by_cases still : pace.GoesOn c.finish 0 0
  · rcases ofSeconds?_nonneg_or pace.frameDt with ⟨dt, nanos, nonneg⟩ | bad
    · rcases pace.stopsAfter_or c.finish dt (n + 1) with ⟨k, enough, stops⟩ | goes_on
      · exact ⟨dt, k, nonneg, .inr nanos, stops,
          loop.state.symm.trans (h.passFrames_gives nanos nonneg stops enough).state⟩
      · have spent := h.passFrames_spent nanos nonneg goes_on
        rw [loop.result] at spent
        cases spent
    · obtain ⟨fault, failed, -⟩ := h.passFrames_fails still bad n
      rw [loop.result] at failed
      cases failed
  · exact ⟨0, 0, Int.le_refl 0, .inl rfl, ⟨fun j lt => absurd lt (Nat.not_lt_zero j), still⟩,
      loop.state.symm.trans (h.passFrames_at_once still n).state⟩

/-- The end of the run and the record of it are told by when the loop stops. -/
theorem Launched.playRun_gives (h : Launched level s c t w) (between : s.Between level)
    (order : (s.order .startRun).Gives events t) (nonneg : 0 ≤ dt) {waited : Float}
    (loop : (t.passFrames pace frames 0.0 []).Gives waited (t.framed dt k)) (run : Nat) :
    ∃ record u, (s.playRun pace frames run).Gives record u ∧ u.Between level ∧
      (c.finish ≤ k * dt →
        record = s.recorded run (.completed c.outcome) c.count c.finish ∧ u = w) ∧
      (k * dt < c.finish →
        record = s.recorded run .timedOut ((k * dt / c.tick).toNat + 1) (k * dt)) := by
  by_cases finished : c.finish ≤ k * dt
  · rw [h.is_over dt k nonneg finished] at loop
    exact ⟨_, w, h.playRun_completed order loop, h.between, fun _ => ⟨rfl, rfl⟩,
      fun before => absurd before (not_lt.mpr finished)⟩
  · have before := not_le.mp finished
    obtain ⟨u, after, gives⟩ := h.playRun_timedOut between order nonneg before loop
    exact ⟨_, u, gives, after, fun finished => absurd before (not_lt.mpr finished), fun _ => rfl⟩

theorem Launched.unique (h : Launched level s c t u) (h' : Launched level s c t w) : u = w := by
  have enough : c.finish ≤ c.finish.toNat * 1 := by
    rw [Int.mul_one]
    exact Int.self_le_toNat _
  exact (h.is_over 1 _ Int.one_nonneg enough).symm.trans (h'.is_over 1 _ Int.one_nonneg enough)

/-- A run of a script that was played without a fault: the run began in `t`, the loop stopped after
`k` frames of `dt` nanoseconds, and `w` is the session after the whole run. -/
structure Played (level : Level) (s : Session) (pace : ScriptSettings) (run : Nat) (tick bomb : Int)
    (t w : Session) (dt : Int) (k : Nat) (record : RunRecord) (u : Session) : Prop where
  clocked : s.holdings.Clocked tick bomb
  started : ∃ events, (s.order .startRun).Gives events t
  launched : Launched level s (s.courseAhead tick bomb) t w
  nonneg : 0 ≤ dt
  nanos : k = 0 ∨ Nanos.ofSeconds? pace.frameDt = .ok dt
  stops : pace.StopsAfter (s.courseAhead tick bomb).finish dt k
  between : u.Between level
  completed : (s.courseAhead tick bomb).finish ≤ k * dt →
    record = s.recorded run (.completed (s.courseAhead tick bomb).outcome)
      (s.courseAhead tick bomb).count (s.courseAhead tick bomb).finish ∧ u = w
  timed_out : k * dt < (s.courseAhead tick bomb).finish →
    record = s.recorded run .timedOut ((k * dt / tick).toNat + 1) (k * dt)

theorem Between.playRun_inv {record : RunRecord} (h : s.Between level)
    (distinct : level.layout.Distinct) (positive : ∀ gear ∈ level.layout, 0 < gear.2)
    (played : (s.playRun pace frames run).Gives record u) :
    ∃ tick bomb t w dt k, Played level s pace run tick bomb t w dt k record u := by
  obtain ⟨events, t, order, rest⟩ := played.of_andThen
  obtain ⟨waited, t', loop, -⟩ := rest.of_andThen
  by_cases can : s.holdings.CanRun
  · obtain ⟨tick, bomb, clocked⟩ := can
    obtain ⟨events', t', w, order', launched⟩ := h.launch clocked distinct positive
    obtain rfl := order.state.symm.trans order'.state
    obtain ⟨dt, k, nonneg, nanos, stops, rfl⟩ := launched.passFrames_inv loop
    obtain ⟨record', u', played', between, completed, timed_out⟩ :=
      launched.playRun_gives h order nonneg loop run
    obtain rfl := played'.state.symm.trans played.state
    obtain rfl := Except.ok.inj (played'.result.symm.trans played.result)
    exact ⟨tick, bomb, t, w, dt, k, clocked, ⟨events, order⟩, launched, nonneg, nanos, stops, between,
      completed, timed_out⟩
  · obtain ⟨fault, failed, -⟩ := h.order_start_fails can
    rw [order.result] at failed
    cases failed

end Session

/-! ## Playthroughs -/

/-- What lies on a level is among what was put there. -/
theorem Gears.mem_ofList {entries : List (Point × Int)} {gear : Point × Int}
    (mem : gear ∈ ofList entries) : gear ∈ entries := by
  have kept : ∀ gears : Gears,
      gear ∈ entries.foldl (fun gears entry => gears.put entry.1 entry.2) gears →
      gear ∈ gears ∨ gear ∈ entries := by
    clear mem
    induction entries with
    | nil => exact fun _ there => .inl there
    | cons entry entries ih =>
      intro gears there
      rcases ih _ there with before | later
      · rcases List.mem_append.mp before with old | new
        · exact .inl (List.mem_filter.mp old).1
        · exact .inr (List.mem_singleton.mp new ▸ List.mem_cons_self)
      · exact .inr (List.mem_cons_of_mem _ later)
  exact (kept [] mem).resolve_left List.not_mem_nil

/-- The level of some settings has gears of positive value, on different cells. -/
theorem Level.ofSettings?_layout {settings : LevelSettings} {level : Level}
    (made : Level.ofSettings? settings = .ok level) :
    level.layout.Distinct ∧ ∀ gear ∈ level.layout, 0 < gear.2 := by
  obtain ⟨gears, placed, made⟩ := bind_eq_ok made
  obtain ⟨spawn, -, made⟩ := bind_eq_ok made
  obtain rfl := Except.ok.inj made
  refine ⟨Gears.ofList_distinct gears, fun gear mem => ?_⟩
  obtain ⟨source, -, read⟩ := of_mem_mapM placed (Gears.mem_ofList mem)
  obtain ⟨cell, -, rfl⟩ := map_eq_ok read
  exact source.positive

theorem openGame_of_ok {settings : Settings} {s : Session}
    (made : Session.ofSettings? settings = .ok s) :
    (openGame settings).Gives { session := s } (some { session := s }) := by
  unfold openGame
  rw [made]
  exact ⟨rfl, rfl⟩

theorem openGame_of_error {settings : Settings} {fault : Fault}
    (failed : Session.ofSettings? settings = .error fault) :
    (openGame settings).result = .error fault := by
  unfold openGame
  rw [failed]
  rfl

/-- A game that is opened is a new one on the level of the settings. -/
theorem openGame_inv {settings : Settings} {game : Playthrough}
    (opened : (openGame settings).result = .ok game) :
    ∃ level, Level.ofSettings? settings.level = .ok level ∧ game.session.Between level ∧
      game.records = [] := by
  cases made : Session.ofSettings? settings with
  | error fault =>
    rw [openGame_of_error made] at opened
    cases opened
  | ok s =>
    obtain rfl := Except.ok.inj ((openGame_of_ok made).result.symm.trans opened)
    obtain ⟨holdings, -, made⟩ := bind_eq_ok made
    obtain ⟨level, laid_out, made⟩ := bind_eq_ok made
    obtain rfl := Except.ok.inj made
    exact ⟨level, laid_out, .new holdings level, rfl⟩

namespace Playthrough

variable {level : Level} {pace : ScriptSettings} {frames : Nat} {p q : Playthrough} {step : Step}
  {steps : List Step}

section
variable (h : p.session.Between level) (distinct : level.layout.Distinct)
  (positive : ∀ gear ∈ level.layout, 0 < gear.2)
include h distinct positive

/-- **Step lemma.**  A step that is carried out leaves the shop open, and a record of its run if it
has one. -/
theorem perform_inv (done : (p.perform pace frames step).Gives () q) :
    q.session.Between level ∧ (step.action ≠ .run → q.records = p.records) ∧
      (step.action = .run → ∃ record, q.records = p.records ++ [record] ∧
        (p.session.playRun pace frames p.records.length).Gives record q.session) := by
  by_cases run : step.action = .run
  · rw [perform_of_run run] at done
    obtain ⟨record, p', within, kept⟩ := done.of_andThen
    obtain ⟨s, played, rfl⟩ := within.of_within
    split at kept
    · obtain rfl := kept.state
      obtain ⟨_, _, _, _, _, _, inv⟩ := h.playRun_inv distinct positive played
      exact ⟨inv.between, fun other => absurd run other, fun _ => ⟨record, rfl, played⟩⟩
    · cases kept.result
  · obtain ⟨s, between, gives⟩ := perform_of_not_run h run (answers_of_perform h done)
    obtain rfl := (gives pace frames).state.symm.trans done.state
    exact ⟨between, fun _ => rfl, fun same => absurd same run⟩

/-- **Run lemma.**  So do all steps of a script, with a record for each run. -/
theorem performAll_inv (done : (p.performAll pace frames steps).Gives () q) :
    q.session.Between level ∧ ∃ more, q.records = p.records ++ more ∧
      more.length = steps.countP (·.action = .run) := by
  induction steps generalizing p with
  | nil =>
    obtain rfl := done.state
    exact ⟨h, [], (List.append_nil _).symm, rfl⟩
  | cons step steps ih =>
    obtain ⟨⟨⟩, p', first, others⟩ := done.of_andThen
    obtain ⟨between, unrecorded, recorded⟩ := perform_inv h distinct positive first
    obtain ⟨open_again, more, records, length⟩ := ih between others
    refine ⟨open_again, ?_⟩
    by_cases run : step.action = .run
    · obtain ⟨record, one_more, -⟩ := recorded run
      refine ⟨record :: more, ?_, ?_⟩
      · rw [records, one_more, List.append_assoc, List.singleton_append]
      · rw [List.length_cons, length, List.countP_cons_of_pos (by simpa using run)]
    · refine ⟨more, ?_, ?_⟩
      · rw [records, unrecorded run]
      · rw [length, List.countP_cons_of_neg (by simpa using run)]

end

end Playthrough

/-! ## The loop ends -/

/-- A run that has begun after some steps of a script. -/
theorem launched_of_started {settings : Settings} {frames : Nat} {before : List Step}
    {game q : Playthrough} {events : List Event} {t : Session}
    (opened : (openGame settings).result = .ok game)
    (reached : (game.performAll settings.script frames before).Gives () q)
    (started : (q.session.order .startRun).Gives events t) :
    ∃ level c w, Session.Launched level q.session c t w := by
  obtain ⟨level, laid_out, between, -⟩ := openGame_inv opened
  obtain ⟨distinct, positive⟩ := Level.ofSettings?_layout laid_out
  obtain ⟨between, -⟩ := Playthrough.performAll_inv between distinct positive reached
  by_cases can : q.session.holdings.CanRun
  · obtain ⟨tick, bomb, clocked⟩ := can
    obtain ⟨events', t', w, order, launched⟩ := between.launch clocked distinct positive
    obtain rfl := order.state.symm.trans started.state
    exact ⟨level, _, w, launched⟩
  · obtain ⟨fault, failed, -⟩ := between.order_start_fails can
    rw [started.result] at failed
    cases failed

namespace Session

variable {level : Level} {s t w : Session} {c : Course} {pace : ScriptSettings}

/-- The loop of a run ends after finitely many frames, because the shop is open again or because the
time for the run is up. -/
def LoopEnds (pace : ScriptSettings) (t : Session) : Prop :=
  ∃ frames waited u, (t.passFrames pace frames 0.0 []).Gives waited u ∧
    (u.phases.phase = .buying ∨ ¬waited < pace.maxRunSeconds)

section
variable (h : Launched level s c t w)
include h

theorem Launched.stopped {dt : Int} {k : Nat} (nonneg : 0 ≤ dt) (stops : ¬pace.GoesOn c.finish dt k) :
    (t.framed dt k).phases.phase = .buying ∨ ¬pace.waited 0.0 k < pace.maxRunSeconds := by
  by_cases in_time : pace.waited 0.0 k < pace.maxRunSeconds
  · refine .inl ((running_eq_false_iff _).mp ?_)
    rw [← Bool.not_eq_true, h.framed_running nonneg]
    exact fun before => stops ⟨before, in_time⟩
  · exact .inr in_time

theorem Launched.goesOn_zero :
    pace.GoesOn c.finish 0 0 ↔ t.phases.phase ≠ .buying ∧ 0.0 < pace.maxRunSeconds := by
  rw [← h.waits_iff (Int.le_refl 0), ne_eq, ← running_eq_false_iff, Bool.not_eq_false]
  rfl

/-- The loop ends just if it has nothing to wait for, or stops after some frames. -/
theorem Launched.loopEnds_iff_stops :
    t.LoopEnds pace ↔ ¬pace.GoesOn c.finish 0 0 ∨
      ∃ dt, Nanos.ofSeconds? pace.frameDt = .ok dt ∧ 0 ≤ dt ∧ ∃ k, pace.StopsAfter c.finish dt k := by
  constructor
  · rintro ⟨frames, waited, u, loop, -⟩
    obtain ⟨dt, k, nonneg, rfl | nanos, stops, -⟩ := h.passFrames_inv loop
    · refine .inl fun goes_on => stops.stops ?_
      simpa [ScriptSettings.GoesOn] using goes_on
    · exact .inr ⟨dt, nanos, nonneg, k, stops⟩
  · rintro (nothing | ⟨dt, nanos, nonneg, k, stops⟩)
    · exact ⟨1, 0.0, t, h.passFrames_at_once nothing 0, h.stopped (Int.le_refl 0) nothing⟩
    · exact ⟨k + 1, _, _, h.passFrames_gives nanos nonneg stops (Nat.lt_succ_self k),
        h.stopped nonneg stops.stops⟩

theorem Launched.loopEnds_iff :
    t.LoopEnds pace ↔ t.phases.phase = .buying ∨ ¬0.0 < pace.maxRunSeconds ∨
      ∃ dt, Nanos.ofSeconds? pace.frameDt = .ok dt ∧
        (0 < dt ∨ dt = 0 ∧ ∃ k, ¬pace.waited 0.0 k < pace.maxRunSeconds) := by
  rw [h.loopEnds_iff_stops, h.goesOn_zero, not_and_or, not_not, or_assoc]
  refine or_congr_right' fun running => or_congr_right' fun in_time => exists_congr fun dt => ?_
  have goes_on : pace.GoesOn c.finish 0 0 := h.goesOn_zero.mpr ⟨running, not_not.mp in_time⟩
  exact and_congr_right fun nanos => pace.stops_iff goes_on.1

end

/-- **When the loop of a run ends.**  In the game of some settings, with the options of the command
in their place, let a run begin after any steps.  Its loop ends just if there is nothing to wait
for, if a frame takes at least a nanosecond, or if it takes none but the seconds that are waited add
up to enough.  Otherwise it goes on for ever, or its first frame is stopped by a fault. -/
theorem loop_ends_iff (settings : Settings) (runDir : Option Path) (frameDt : Option Float)
    (summarize : Bool) {frames : Nat} {before : List Step} {game q : Playthrough} {events : List Event}
    {t : Session} :
    let played := CommandLine.overridden settings runDir frameDt summarize
    let pace := played.script
    (openGame played).result = .ok game →
    (game.performAll pace frames before).Gives () q →
    (q.session.order .startRun).Gives events t →
    (t.LoopEnds pace ↔
      t.phases.phase = .buying ∨ ¬0.0 < pace.maxRunSeconds ∨
      ∃ dt, Nanos.ofSeconds? pace.frameDt = .ok dt ∧
        (0 < dt ∨ dt = 0 ∧ ∃ k, ¬pace.waited 0.0 k < pace.maxRunSeconds)) ∧
    (t.phases.phase = .running → 0.0 < pace.maxRunSeconds →
      (∀ fault, Nanos.ofSeconds? pace.frameDt = .error fault →
        ∀ n, (t.passFrames pace (n + 1) 0.0 []).result = .error fault) ∧
      (∀ dt < 0, Nanos.ofSeconds? pace.frameDt = .ok dt →
        ∀ n, (t.passFrames pace (n + 1) 0.0 []).result = .error .negativeDelta) ∧
      (Nanos.ofSeconds? pace.frameDt = .ok 0 → (∀ k, pace.waited 0.0 k < pace.maxRunSeconds) →
        ∀ n, (t.passFrames pace n 0.0 []).result = .error .framesSpent)) := by
  intro played pace opened reached started
  obtain ⟨level, c, w, launched⟩ := launched_of_started opened reached started
  refine ⟨launched.loopEnds_iff, fun running in_time => ?_⟩
  have goes_on : pace.GoesOn c.finish 0 0 := launched.goesOn_zero.mpr ⟨by simp [running], in_time⟩
  refine ⟨fun fault failed n => ?_, fun dt negative nanos n => ?_, fun nanos for_ever n => ?_⟩
  · obtain ⟨first, result, same | ⟨⟨dt, nanos⟩, -⟩⟩ :=
      launched.passFrames_fails goes_on (fun dt nanos => by rw [failed] at nanos; cases nanos) n
    · rw [result, Except.error.inj (same.symm.trans failed)]
    · rw [failed] at nanos
      cases nanos
  · obtain ⟨first, result, failed | ⟨-, rfl⟩⟩ :=
      launched.passFrames_fails goes_on (fun dt' nanos' => by
        rwa [Except.ok.inj (nanos'.symm.trans nanos)]) n
    · rw [nanos] at failed
      cases failed
    · exact result
  · refine launched.passFrames_spent nanos (Int.le_refl 0) fun j _ => ⟨?_, for_ever j⟩
    rw [Int.mul_zero]
    exact goes_on.1

/-- Whether a run begins after some steps, and goes on. -/
def begins (settings : Settings) (before : List Step) : Bool :=
  (openGame settings).result.toOption.any fun game =>
    let reached := game.performAll settings.script 0 before
    let started := reached.state.session.order .startRun
    reached.result.isOk && started.result.isOk && started.state.phases.phase = .running

theorem of_begins (settings : Settings) (before : List Step) (begun : begins settings before = true) :
    ∃ game q events t, (openGame settings).result = .ok game ∧
      (game.performAll settings.script 0 before).Gives () q ∧
      (q.session.order .startRun).Gives events t ∧ t.phases.phase = .running := by
  unfold begins at begun
  obtain ⟨game, opened, begun⟩ := of_any_toOption begun
  simp only [Bool.and_eq_true, decide_eq_true_eq] at begun
  obtain ⟨⟨reached, started⟩, running⟩ := begun
  obtain ⟨⟨⟩, reached⟩ := Attempt.gives_of_isOk reached
  obtain ⟨events, started⟩ := Attempt.gives_of_isOk started
  exact ⟨game, _, events, _, opened, reached, started, running⟩

/-- The standard settings, a sixtieth of a second for each frame. -/
theorem loop_ends_standard :
    let played := CommandLine.overridden CommandLine.standardSettings none none true
    ∃ game q events t, (openGame played).result = .ok game ∧
      (game.performAll played.script 0 [CommandLine.addMove]).Gives () q ∧
      (q.session.order .startRun).Gives events t ∧ t.phases.phase = .running ∧
      t.LoopEnds played.script := by
  intro played
  obtain ⟨game, q, events, t, opened, reached, started, running⟩ :=
    of_begins played [CommandLine.addMove] (by decide +kernel)
  have nanos : Nanos.ofSeconds? played.script.frameDt = .ok 16666667 := by decide +kernel
  have ends := (loop_ends_iff CommandLine.standardSettings none none true opened reached started).1
  exact ⟨game, q, events, t, opened, reached, started, running,
    ends.mpr (.inr (.inr ⟨_, nanos, .inl (by decide)⟩))⟩

/-- With frames of minus half a second, or of no time at all, the loop of their first run does
not end. -/
theorem loop_does_not_end_standard :
    let played (frameDt : Float) :=
      CommandLine.overridden CommandLine.standardSettings none (some frameDt) true
    ∀ frameDt, frameDt = -0.5 ∨ frameDt = 0.0 →
      ∃ game q events t, (openGame (played frameDt)).result = .ok game ∧
        (game.performAll (played frameDt).script 0 [CommandLine.addMove]).Gives () q ∧
        (q.session.order .startRun).Gives events t ∧ t.phases.phase = .running ∧
        ¬t.LoopEnds (played frameDt).script := by
  intro played frameDt which
  have begun : begins (played frameDt) [CommandLine.addMove] = true := by
    rcases which with rfl | rfl <;> decide +kernel
  obtain ⟨game, q, events, t, opened, reached, started, running⟩ := of_begins _ _ begun
  obtain ⟨level, c, w, launched⟩ := launched_of_started opened reached started
  refine ⟨game, q, events, t, opened, reached, started, running, ?_⟩
  have in_time : 0.0 < (played frameDt).script.maxRunSeconds := by
    show (0.0 : Float) < 120.0
    decide +kernel
  rw [launched.loopEnds_iff]
  rintro (buying | late | ⟨dt, nanos, ends⟩)
  · rw [running] at buying
    cases buying
  · exact late in_time
  · rcases which with rfl | rfl
    · have negative : Nanos.ofSeconds? (played (-0.5)).script.frameDt = .ok (-500000000) := by
        decide +kernel
      obtain rfl := Except.ok.inj (negative.symm.trans nanos)
      rcases ends with pos | ⟨zero, -⟩
      · exact absurd pos (by decide)
      · exact absurd zero (by decide)
    · have nothing : Nanos.ofSeconds? (played 0.0).script.frameDt = .ok 0 := by decide +kernel
      obtain rfl := Except.ok.inj (nothing.symm.trans nanos)
      rcases ends with pos | ⟨-, k, late⟩
      · exact absurd pos (by decide)
      · rw [ScriptSettings.waited_of_zero rfl] at late
        exact late in_time

end Session

end RobotWorkshop
