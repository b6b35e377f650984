import RobotWorkshop.Play.Session
import RobotWorkshop.Proofs.Attempts
import RobotWorkshop.Proofs.Timers
import Mathlib

/-!
What the ticks of a run do to a session, without the clocks.  `s.executed n` is the session after
`n` more instructions; it is what `n` ticks in time make of `s` (`Session.runTicks_append`).  The
run is over in `s.ended outcome time`.
-/

namespace RobotWorkshop

/-- The first `count` instructions from `start` on, as they are announced. -/
def Program.ticksFrom (p : Program) (start count : Nat) : List Event :=
  ((p.sequence.zipIdx.drop start).take count).map fun (i, pc) => .tickExecuted i pc

theorem Program.ticksFrom_add (p : Program) (start m n : Nat) :
    p.ticksFrom start (m + n) = p.ticksFrom start m ++ p.ticksFrom (start + m) n := by
  unfold Program.ticksFrom
  rw [List.take_add, List.map_append, List.drop_drop]

theorem Program.ticksFrom_of_past {p : Program} {start : Nat} (count : Nat)
    (h : p.sequence[start]? = none) : p.ticksFrom start count = [] := by
  have past : p.sequence.zipIdx.length ≤ start := by
    rw [List.length_zipIdx]
    exact List.getElem?_eq_none_iff.mp h
  unfold Program.ticksFrom
  rw [List.drop_eq_nil_of_le past, List.take_nil, List.map_nil]

theorem Program.ticksFrom_one {p : Program} {start : Nat} {i : Instruction}
    (h : p.sequence[start]? = some i) : p.ticksFrom start 1 = [.tickExecuted i start] := by
  have head : p.sequence.zipIdx[start]? = some (i, start) := by simp [h]
  unfold Program.ticksFrom
  rw [List.take_one, List.head?_drop, head]
  rfl

namespace Session

/-! ## One instruction, and many -/

/-- What is queued for a collected value. -/
def pickups (value : Int) : List Submission :=
  if value = 0 then [] else [.command (.pickUp value)]

/-- The session after the instruction under the program counter, `i`. -/
def stepped (s : Session) (i : Instruction) : Session :=
  let pose := s.pose.execute i
  let collected := s.level.collect pose.position
  { s with
    interpreter := { s.interpreter with pc := s.interpreter.pc + 1 }
    pose
    ticks := s.ticks + 1
    level := collected.2
    queue := s.queue ++ pickups collected.1
    outbox := s.outbox ++ [.tickExecuted i s.interpreter.pc] }

/-- The session after so many more instructions, or at the end of its program. -/
def executed (s : Session) : Nat → Session
  | 0 => s
  | n + 1 =>
    match s.holdings.program.sequence[s.interpreter.pc]? with
    | none => s
    | some i => (s.stepped i).executed n

/-- The session whose run is over, so many nanoseconds after its start. -/
def ended (s : Session) (outcome : Outcome) (time : Int) : Session :=
  { s with
    interpreter := .idle
    phases := .entered .buying
    lastOutcome := some outcome
    runElapsed := time
    outbox := s.outbox ++ [.runCompleted outcome s.ticks, .phaseChanged .buying] }

theorem endRun_gives {s : Session} (running : s.running = true) (outcome : Outcome) :
    (s.endRun outcome).Gives () (s.ended outcome s.runElapsed) := by
  have finish : s.phases.finishRun? = .ok (.entered .buying) := if_pos running
  unfold endRun
  rw [finish]
  exact Attempt.gives_done _ _ _

theorem tick_of_instruction {s : Session} {i : Instruction}
    (h : s.holdings.program.sequence[s.interpreter.pc]? = some i) :
    s.tick.Gives true (s.stepped i) := by
  have inside : ¬s.holdings.program.length < s.interpreter.pc := by
    have := (List.getElem?_eq_some_iff.mp h).1
    unfold Program.length
    omega
  unfold tick Interpreter.tick?
  rw [if_neg inside, h]
  refine Attempt.Gives.after (Attempt.Gives.andThen (v := ()) (s := s.stepped i) ?_
    (Attempt.gives_done _ _ _)) _
  refine ⟨rfl, ?_⟩
  simp only [collect, stepped, pickups, announce, submit, Nat.add_sub_cancel]
  split <;> simp [Attempt.done, *]

theorem tick_at_end {s : Session} (running : s.running = true)
    (h : s.interpreter.pc = s.holdings.program.length) :
    s.tick.Gives false (s.ended .success s.runElapsed) := by
  have past : s.holdings.program.sequence[s.interpreter.pc]? = none :=
    List.getElem?_eq_none (Nat.le_of_eq h.symm)
  unfold tick Interpreter.tick?
  rw [if_neg (by omega), past]
  exact ((endRun_gives running .success).andThen (Attempt.gives_done _ _ _)).after _

/-! ## Many instructions -/

theorem executed_succ {s : Session} {i : Instruction} (n : Nat)
    (h : s.holdings.program.sequence[s.interpreter.pc]? = some i) :
    s.executed (n + 1) = (s.stepped i).executed n := by
  rw [executed, h]

theorem executed_of_past {s : Session} (n : Nat)
    (h : s.holdings.program.sequence[s.interpreter.pc]? = none) : s.executed n = s := by
  cases n with
  | zero => rfl
  | succ n => rw [executed, h]

theorem executed_add (s : Session) (m n : Nat) :
    s.executed (m + n) = (s.executed m).executed n := by
  induction m generalizing s with
  | zero => rw [Nat.zero_add, executed]
  | succ m ih =>
    cases h : s.holdings.program.sequence[s.interpreter.pc]? with
    | none => rw [executed_of_past _ h, executed_of_past _ h, executed_of_past _ h]
    | some i => rw [Nat.add_right_comm, executed_succ _ h, executed_succ _ h, ih]

/-- What executing instructions leaves alone: all but the counters, the pose, the level, the queue
and the outbox. -/
theorem executed_rest (s : Session) (n : Nat) :
    s.executed n =
      { s with
        interpreter := { s.interpreter with pc := (s.executed n).interpreter.pc }
        pose := (s.executed n).pose
        ticks := (s.executed n).ticks
        level := (s.executed n).level
        queue := (s.executed n).queue
        outbox := (s.executed n).outbox } := by
  induction n generalizing s with
  | zero => rfl
  | succ n ih =>
    cases h : s.holdings.program.sequence[s.interpreter.pc]? with
    | none => rw [executed_of_past _ h]
    | some i => rw [executed_succ _ h]; exact ih (s.stepped i)

@[simp] theorem executed_holdings (s : Session) (n : Nat) :
    (s.executed n).holdings = s.holdings := by
  rw [executed_rest]

@[simp] theorem executed_phases (s : Session) (n : Nat) : (s.executed n).phases = s.phases := by
  rw [executed_rest]

@[simp] theorem executed_runElapsed (s : Session) (n : Nat) :
    (s.executed n).runElapsed = s.runElapsed := by
  rw [executed_rest]

theorem executed_counters {s : Session} {n : Nat}
    (fit : s.interpreter.pc + n ≤ s.holdings.program.length) :
    (s.executed n).interpreter.pc = s.interpreter.pc + n ∧ (s.executed n).ticks = s.ticks + n := by
  induction n generalizing s with
  | zero => exact ⟨rfl, rfl⟩
  | succ n ih =>
    have inside : s.interpreter.pc < s.holdings.program.sequence.length := by
      unfold Program.length at fit
      omega
    rw [executed_succ n (List.getElem?_eq_getElem inside)]
    have fit' : s.interpreter.pc + 1 + n ≤ s.holdings.program.length := by omega
    obtain ⟨pc, ticks⟩ := ih (s := s.stepped s.holdings.program.sequence[s.interpreter.pc]) fit'
    rw [pc, ticks]
    simp only [stepped]
    omega

theorem executed_pose (s : Session) (n : Nat) :
    (s.executed n).pose =
      ((s.holdings.program.sequence.drop s.interpreter.pc).take n).foldl Pose.execute s.pose := by
  induction n generalizing s with
  | zero => rfl
  | succ n ih =>
    cases h : s.holdings.program.sequence[s.interpreter.pc]? with
    | none =>
      rw [executed_of_past _ h, List.drop_eq_nil_of_le (List.getElem?_eq_none_iff.mp h)]
      rfl
    | some i =>
      obtain ⟨inside, rfl⟩ := List.getElem?_eq_some_iff.mp h
      rw [executed_succ _ h, ih, List.drop_eq_getElem_cons inside]
      rfl

/-! ## The ticks of a frame -/

/-- Ticks in time, no more of them than there are instructions left, execute as many instructions.
-/
theorem runTicks_append {s : Session} {bombAt : Option Int} {offsets : List Int} (rest : List Int)
    (inTime : ∀ offset ∈ offsets, bombAt.any (· ≤ offset) = false)
    (fit : s.interpreter.pc + offsets.length ≤ s.holdings.program.length)
    {answer : Option Int} {t : Session}
    (h : ((s.executed offsets.length).runTicks bombAt rest).Gives answer t) :
    (s.runTicks bombAt (offsets ++ rest)).Gives answer t := by
  induction offsets generalizing s with
  | nil => exact h
  | cons offset offsets ih =>
    rw [List.length_cons] at fit h
    have inside : s.interpreter.pc < s.holdings.program.sequence.length := by
      unfold Program.length at fit
      omega
    have here := List.getElem?_eq_getElem inside
    rw [executed_succ _ here] at h
    rw [List.cons_append, runTicks, if_neg (by simp [inTime offset])]
    refine (tick_of_instruction here).andThen ?_
    rw [if_pos rfl]
    refine ih (fun x hx => inTime x (List.mem_cons_of_mem _ hx)) ?_ h
    show s.interpreter.pc + 1 + offsets.length ≤ s.holdings.program.length
    omega

/-- Ticks that the bomb is ahead of are not executed. -/
theorem runTicks_beats_of_le {s : Session} {bombAt first period : Int} (n : Nat)
    (h : bombAt ≤ first) : (s.runTicks (some bombAt) (beats first period n)).Gives none s := by
  cases n with
  | zero => exact Attempt.gives_done _ _ _
  | succ n =>
    rw [beats, runTicks, if_pos (by simpa using h)]
    exact Attempt.gives_done _ _ _

/-- The tick after the last instruction finds the program at its end. -/
theorem runTicks_at_end {s : Session} {bombAt : Option Int} {offset : Int} (rest : List Int)
    (running : s.running = true) (h : s.interpreter.pc = s.holdings.program.length)
    (inTime : bombAt.any (· ≤ offset) = false) :
    (s.runTicks bombAt (offset :: rest)).Gives (some offset) (s.ended .success s.runElapsed) := by
  rw [runTicks, if_neg (by simp [inTime])]
  exact (tick_at_end running h).andThen (Attempt.gives_done _ _ _)

end Session

end RobotWorkshop
