import RobotWorkshop.Proofs.Turns

/-!
What a run collects.  On its way over some cells it finds each gear of the layout that lies on one
of them, once, and leaves the others

    found ~ values of the layout on the cells,    left = the layout off the cells     (Gears.Reaped)

and what is found is queued for the wallet.  This holds at any time of the current or last run, and
its cells are where the robot stood after each instruction that has been told (`Session.reaping`).
-/

namespace RobotWorkshop

/-! ## Gears on cells -/

namespace Gears

/-- The gears on some cells. -/
def on (gears : Gears) (cells : List Point) : Gears := gears.filter (·.1 ∈ cells)

/-- The gears off some cells. -/
def off (gears : Gears) (cells : List Point) : Gears := gears.filter (·.1 ∉ cells)

/-- No cell occurs twice. -/
def Distinct (gears : Gears) : Prop := (gears.map Prod.fst).Nodup

theorem put_distinct {gears : Gears} (h : gears.Distinct) (cell : Point) (value : Int) :
    (gears.put cell value).Distinct := by
  unfold Distinct put
  rw [List.map_append, List.map_singleton]
  refine (h.sublist (List.filter_sublist.map _)).append (List.nodup_singleton _) ?_
  rw [List.disjoint_singleton]
  intro mem
  obtain ⟨gear, kept, there⟩ := List.mem_map.mp mem
  have other := (List.mem_filter.mp kept).2
  simp [there] at other

theorem ofList_distinct (entries : List (Point × Int)) : (ofList entries).Distinct := by
  have kept : ∀ gears : Gears, gears.Distinct →
      Distinct (entries.foldl (fun gears entry => Gears.put gears entry.1 entry.2) gears) := by
    induction entries with
    | nil => exact fun _ h => h
    | cons entry entries ih => exact fun gears h => ih _ (put_distinct h _ _)
  exact kept [] List.nodup_nil

variable {layout : Gears}

/-- The gears on some cells and those off them make up all. -/
theorem on_append_off (layout : Gears) (cells : List Point) :
    (layout.on cells ++ layout.off cells).Perm layout := by
  have parts := List.filter_append_perm (fun gear : Point × Int => decide (gear.1 ∈ cells)) layout
  unfold on off
  simpa using parts

/-- What is taken from a cell is all that lies there. -/
theorem values_at (distinct : layout.Distinct) (positive : ∀ gear ∈ layout, 0 < gear.2)
    (cell : Point) :
    (layout.filter (·.1 = cell)).map (·.2) =
      if (layout.take cell).1 = 0 then [] else [(layout.take cell).1] := by
  induction layout with
  | nil => rfl
  | cons gear rest ih =>
    obtain ⟨absent, distinct⟩ := List.nodup_cons.mp distinct
    by_cases here : gear.1 = cell
    · have value : Gears.take (gear :: rest) cell = (gear.2, rest.filter (·.1 ≠ cell)) := by
        simp [take, here]
      have none_left : rest.filter (·.1 = cell) = [] := by
        rw [List.filter_eq_nil_iff]
        intro other mem there
        have same : other.1 = gear.1 := (of_decide_eq_true there).trans here.symm
        exact absent (same ▸ List.mem_map_of_mem mem)
      have nonzero : gear.2 ≠ 0 := (positive gear List.mem_cons_self).ne'
      rw [value, if_neg nonzero, List.filter_cons_of_pos (by simpa using here), none_left]
      rfl
    · have value : (Gears.take (gear :: rest) cell).1 = (Gears.take rest cell).1 := by
        simp [take, here]
      rw [value, List.filter_cons_of_neg (by simpa using here)]
      exact ih distinct fun other mem => positive other (List.mem_cons_of_mem _ mem)

/-- What lies on some cells is worth what can be taken from each of them once. -/
theorem sum_on (distinct : layout.Distinct) (cells : List Point) :
    ((layout.on cells).map (·.2)).sum = ∑ cell ∈ cells.toFinset, (layout.take cell).1 := by
  induction layout with
  | nil => simp [on, take]
  | cons gear rest ih =>
    obtain ⟨absent, distinct⟩ := List.nodup_cons.mp distinct
    have value : ∀ cell, (Gears.take (gear :: rest) cell).1 =
        (if cell = gear.1 then gear.2 else 0) + (Gears.take rest cell).1 := by
      intro cell
      rcases eq_or_ne cell gear.1 with rfl | other
      · have nothing : rest.find? (·.1 = gear.1) = none := by
          rw [List.find?_eq_none]
          intro other mem there
          exact absent (of_decide_eq_true there ▸ List.mem_map_of_mem mem)
        simp [take, nothing]
      · simp [take, other, other.symm]
    simp only [value, Finset.sum_add_distrib, Finset.sum_ite_eq', List.mem_toFinset, ← ih distinct]
    by_cases there : gear.1 ∈ cells <;> simp [on, there]

theorem off_snoc (layout : Gears) (cells : List Point) (cell : Point) :
    layout.off (cells ++ [cell]) = (layout.off cells).filter (·.1 ≠ cell) := by
  unfold off
  rw [List.filter_filter]
  refine List.filter_congr fun gear _ => ?_
  by_cases seen : gear.1 ∈ cells <;> simp [seen]

theorem on_snoc (layout : Gears) (cells : List Point) (cell : Point) :
    (layout.on (cells ++ [cell])).Perm (layout.on cells ++ (layout.off cells).filter (·.1 = cell)) := by
  have before : (layout.on (cells ++ [cell])).on cells = layout.on cells := by
    unfold on
    rw [List.filter_filter]
    refine List.filter_congr fun gear _ => ?_
    by_cases seen : gear.1 ∈ cells <;> simp [seen]
  have here : (layout.on (cells ++ [cell])).off cells = (layout.off cells).filter (·.1 = cell) := by
    unfold on off
    rw [List.filter_filter, List.filter_filter]
    refine List.filter_congr fun gear _ => ?_
    by_cases seen : gear.1 ∈ cells <;> simp [seen]
  have parts := (layout.on (cells ++ [cell])).on_append_off cells
  rw [before, here] at parts
  exact parts.symm

/-- What has been found and what is left of a layout, after some cells. -/
structure Reaped (layout : Gears) (cells : List Point) (found : List Int) (left : Gears) : Prop where
  found : found.Perm ((layout.on cells).map (·.2))
  left : left = layout.off cells

theorem Reaped.start (layout : Gears) : Reaped layout [] [] layout where
  found := by simp [on]
  left := by simp [off]

/-- One more cell, which may have been visited before. -/
theorem Reaped.step {cells : List Point} {found : List Int} {left : Gears}
    (h : Reaped layout cells found left) (distinct : layout.Distinct)
    (positive : ∀ gear ∈ layout, 0 < gear.2) (cell : Point) :
    Reaped layout (cells ++ [cell])
      (found ++ if (left.take cell).1 = 0 then [] else [(left.take cell).1]) (left.take cell).2 := by
  obtain ⟨same, rfl⟩ := h
  have distinct_off : (layout.off cells).Distinct := distinct.sublist (List.filter_sublist.map _)
  have positive_off : ∀ gear ∈ layout.off cells, 0 < gear.2 :=
    fun gear mem => positive gear (List.mem_filter.mp mem).1
  refine ⟨?_, (layout.off_snoc cells cell).symm⟩
  rw [← values_at distinct_off positive_off]
  refine (same.append_right _).trans ?_
  rw [← List.map_append]
  exact ((layout.on_snoc cells cell).map _).symm

end Gears

/-! ## Cells on the way -/

/-- Where the robot stands after each of some instructions. -/
def Pose.path (p : Pose) : List Instruction → List Point
  | [] => []
  | i :: is => (p.execute i).position :: (p.execute i).path is

theorem Pose.path_snoc (p : Pose) (is : List Instruction) (i : Instruction) :
    p.path (is ++ [i]) = p.path is ++ [((is.foldl Pose.execute p).execute i).position] := by
  induction is generalizing p with
  | nil => rfl
  | cons j is ih => exact congrArg (_ :: ·) (ih _)

/-- The instruction that an event tells was executed. -/
def Event.instruction : Event → Option Instruction
  | .tickExecuted i _ => some i
  | _ => none

theorem Program.instruction_ticksFrom_one {p : Program} {start : Nat} {i : Instruction}
    (h : p.sequence[start]? = some i) : (p.ticksFrom start 1).filterMap Event.instruction = [i] := by
  rw [ticksFrom_one h]
  rfl

namespace Session

/-- Where a run stands on a level, after some instructions that found some gears. -/
structure Reaping (start : Pose) (layout : Gears) (is : List Instruction) (found : List Int)
    (t : Session) : Prop where
  start_eq : t.level.start = start
  layout_eq : t.level.layout = layout
  pose_eq : t.pose = is.foldl Pose.execute start
  reaped : layout.Reaped (start.path is) found t.level.gears

variable {start : Pose} {layout : Gears} {is : List Instruction} {found : List Int} {s t : Session}

theorem Reaping.congr (h : Reaping start layout is found s) (level : t.level = s.level)
    (pose : t.pose = s.pose) : Reaping start layout is found t where
  start_eq := level ▸ h.start_eq
  layout_eq := level ▸ h.layout_eq
  pose_eq := pose.trans h.pose_eq
  reaped := level ▸ h.reaped

theorem Reaping.atStart (h : Reaping start layout is found s) (interpreter : Interpreter) :
    Reaping start layout [] [] (s.atStart interpreter) where
  start_eq := h.start_eq
  layout_eq := h.layout_eq
  pose_eq := h.start_eq
  reaped := by
    show layout.Reaped [] [] s.level.layout
    rw [h.layout_eq]
    exact .start layout

theorem Runs.no_start {told : List Event} (runs : s.Runs told t) : .phaseChanged .running ∉ told := by
  have no_tick : ∀ p : Program, ∀ first n, .phaseChanged .running ∉ p.ticksFrom first n := by
    intro p first n mem
    have of_tick := p.ofTick_ticksFrom first n _ mem
    cases of_tick
  cases runs with
  | goesOn fit => exact no_tick _ _ _
  | ends fit through =>
    intro mem
    rcases List.mem_append.mp mem with mem | mem
    · exact no_tick _ _ _ mem
    · simp at mem

section Executing

variable (distinct : layout.Distinct) (positive : ∀ gear ∈ layout, 0 < gear.2)
include distinct positive

theorem Reaping.stepped (h : Reaping start layout is found s) (i : Instruction) :
    ∃ more, (s.stepped i).queue = s.queue ++ pickUps more ∧
      Reaping start layout (is ++ [i]) (found ++ more) (s.stepped i) := by
  let value := (s.level.gears.take (s.pose.execute i).position).1
  refine ⟨if value = 0 then [] else [value], ?_, h.start_eq, h.layout_eq, ?_, ?_⟩
  · have queued : pickups value = pickUps (if value = 0 then [] else [value]) := by
      unfold pickups
      split <;> rfl
    exact congrArg (s.queue ++ ·) queued
  · rw [List.foldl_append, ← h.pose_eq]
    rfl
  · rw [Pose.path_snoc, ← h.pose_eq]
    exact h.reaped.step distinct positive _

theorem Reaping.executed (h : Reaping start layout is found s) (n : Nat) :
    ∃ more, (s.executed n).queue = s.queue ++ pickUps more ∧
      Reaping start layout
        (is ++ (s.holdings.program.ticksFrom s.interpreter.pc n).filterMap Event.instruction)
        (found ++ more) (s.executed n) := by
  induction n generalizing s is found with
  | zero =>
    refine ⟨[], (List.append_nil _).symm, ?_⟩
    simpa [Program.ticksFrom, Session.executed] using h
  | succ n ih =>
    cases next : s.holdings.program.sequence[s.interpreter.pc]? with
    | none =>
      refine ⟨[], ?_, ?_⟩
      · rw [executed_of_past _ next]
        exact (List.append_nil _).symm
      · rw [executed_of_past _ next, Program.ticksFrom_of_past _ next]
        simpa using h
    | some i =>
      obtain ⟨first, queue, stepped⟩ := h.stepped distinct positive i
      obtain ⟨more, queue', executed⟩ := ih stepped
      refine ⟨first ++ more, ?_, ?_⟩
      · rw [executed_succ _ next, queue', queue, pickUps_append, List.append_assoc]
      · rw [executed_succ _ next, Nat.add_comm n 1, Program.ticksFrom_add, List.filterMap_append,
          Program.instruction_ticksFrom_one next, ← List.append_assoc, ← List.append_assoc]
        exact executed

theorem Reaping.runs {told : List Event} (h : Reaping start layout is found s) (runs : s.Runs told t) :
    ∃ more, t.queue = s.queue ++ pickUps more ∧
      Reaping start layout (is ++ told.filterMap Event.instruction) (found ++ more) t := by
  cases runs with
  | @goesOn n clocks time fit =>
    obtain ⟨more, queue, executed⟩ := h.executed distinct positive n
    exact ⟨more, queue, executed.congr rfl rfl⟩
  | @ends n outcome time fit through =>
    obtain ⟨more, queue, executed⟩ := h.executed distinct positive n
    have ending : [Event.runCompleted outcome (s.ticks + n), .phaseChanged .buying].filterMap
        Event.instruction = [] := rfl
    refine ⟨more, queue, ?_⟩
    rw [List.filterMap_append, ending, List.append_nil]
    exact executed.congr rfl rfl

/-- The start of a run, from which it goes as far as it goes. -/
theorem Reaping.begun {interpreter : Interpreter} {told : List Event}
    (h : Reaping start layout is found s) (runs : (s.atStart interpreter).Runs told t) :
    ∃ more, t.queue = s.queue ++ pickUps more ∧
      Reaping start layout (told.filterMap Event.instruction) more t :=
  (h.atStart interpreter).runs distinct positive runs

/-- **Step lemma.**  A turn that tells of the start of a run begins a new harvest; any other goes on
with the one there is. -/
theorem Reaping.turn {c : Option Command} {told : List Event} (h : Reaping start layout is found s)
    (turn : s.Turn c told t) :
    ∃ more, t.queue = s.queue ++ pickUps more ∧
      if .phaseChanged .running ∈ told then
        Reaping start layout (told.filterMap Event.instruction) more t
      else Reaping start layout (is ++ told.filterMap Event.instruction) (found ++ more) t := by
  have unmoved : t.queue = s.queue → t.level = s.level → t.pose = s.pose →
      told.filterMap Event.instruction = [] → .phaseChanged .running ∉ told →
      ∃ more, t.queue = s.queue ++ pickUps more ∧
        if .phaseChanged .running ∈ told then
          Reaping start layout (told.filterMap Event.instruction) more t
        else Reaping start layout (is ++ told.filterMap Event.instruction) (found ++ more) t := by
    intro queue level pose silent no_start
    refine ⟨[], queue.trans (List.append_nil _).symm, ?_⟩
    rw [if_neg no_start, silent, List.append_nil, List.append_nil]
    exact h.congr level pose
  cases turn with
  | still => exact unmoved rfl rfl rfl rfl List.not_mem_nil
  | ran running counted runs =>
    obtain ⟨more, queue, reaping⟩ := h.runs distinct positive runs
    refine ⟨more, queue, ?_⟩
    rw [if_neg runs.no_start]
    exact reaping
  | stranded buying =>
    refine ⟨[], (List.append_nil _).symm, ?_⟩
    rw [if_pos List.mem_cons_self]
    exact h.atStart _
  | began buying fresh runs =>
    obtain ⟨more, queue, reaping⟩ := h.begun distinct positive runs
    refine ⟨more, queue, ?_⟩
    rw [if_pos List.mem_cons_self]
    exact reaping
  | givenUp running => exact unmoved rfl rfl rfl rfl (by simp)
  | @bought index sale buying sold =>
    have silent : ∀ e ∈ s.receipt index sale, e.instruction = none ∧ e ≠ .phaseChanged .running := by
      intro e mem
      have of_shop := s.receipt_ofRun index sale e mem
      cases e with
      | tickExecuted i pc => cases of_shop
      | phaseChanged phase => cases of_shop
      | _ => exact ⟨rfl, nofun⟩
    exact unmoved rfl rfl rfl (List.filterMap_eq_nil_iff.mpr fun e mem => (silent e mem).1)
      fun mem => (silent _ mem).2 rfl
  | added buying unlocked fits => exact unmoved rfl rfl rfl rfl List.not_mem_nil
  | removed buying found => exact unmoved rfl rfl rfl rfl List.not_mem_nil
  | credited taken => exact unmoved rfl rfl rfl rfl (by simp)

end Executing

/-! ## The current or last run -/

namespace Moment

variable (m : Moment)

/-- The instructions that are executed. -/
def instructions : List Instruction := m.news.filterMap Event.instruction

/-- What a run adds to the queue, behind what the host left there. -/
def collected : List Submission := m.after.queue.drop m.prepared.queue.length

end Moment

/-- The moments of the current or last run. -/
def lastRun (ms : List Moment) : List Moment :=
  ms.foldl (fun run m => if .phaseChanged .running ∈ m.news then [m] else run ++ [m]) []

theorem lastRun_snoc (ms : List Moment) (m : Moment) :
    lastRun (ms ++ [m]) = if .phaseChanged .running ∈ m.news then [m] else lastRun ms ++ [m] := by
  rw [lastRun, List.foldl_append]
  rfl

/-- **Run lemma.**  At any time of the current or last run, what lies where its instructions have
led has been found and queued, and the rest is left. -/
theorem reaping (holdings : Holdings) {level : Level} (full : level.gears = level.layout)
    (distinct : level.layout.Distinct) (positive : ∀ gear ∈ level.layout, 0 < gear.2)
    (hs : List Happening) :
    let run := lastRun ((Session.new holdings level).trace hs)
    ∃ found, run.flatMap Moment.collected = pickUps found ∧
      Reaping level.start level.layout (run.flatMap Moment.instructions) found
        ((Session.new holdings level).through hs) := by
  refine history_induction (P := fun ms t => ∃ found,
    (lastRun ms).flatMap Moment.collected = pickUps found ∧
      Reaping level.start level.layout ((lastRun ms).flatMap Moment.instructions) found t) ?_ ?_ ?_ hs
  · refine ⟨[], rfl, rfl, rfl, rfl, ?_⟩
    show level.layout.Reaped [] [] level.gears
    rw [full]
    exact .start level.layout
  · rintro ms t queue outbox controls ⟨found, collected, reaping⟩
    exact ⟨found, collected, reaping.congr rfl rfl⟩
  · rintro ms m ⟨found, collected, reaping⟩ turn
    obtain ⟨more, queue, goes_on⟩ := reaping.turn distinct positive turn
    have added : m.collected = pickUps more := by
      rw [Moment.collected, queue, List.drop_left]
    rw [lastRun_snoc]
    split
    · rename_i begins
      rw [if_pos begins] at goes_on
      refine ⟨more, ?_, ?_⟩
      · rw [List.flatMap_singleton, added]
      · rw [List.flatMap_singleton]
        exact goes_on
    · rename_i going
      rw [if_neg going] at goes_on
      refine ⟨found ++ more, ?_, ?_⟩
      · rw [List.flatMap_append, List.flatMap_singleton, collected, added, pickUps_append]
      · rw [List.flatMap_append, List.flatMap_singleton]
        exact goes_on

end Session

end RobotWorkshop
