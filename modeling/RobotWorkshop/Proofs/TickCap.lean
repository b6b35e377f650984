import RobotWorkshop.Proofs.FailedStart
import RobotWorkshop.Proofs.RepeatingTimers

/-!
How many ticks a frame asks for.  The run stage asks the tick clock for no more completions than the
rest of the program can take, one more than its instructions (`Session.pendingTicks`).  The last of
these finds the end of the program, if nothing ended the run before, and then the completions that
follow are not looked at (`Session.runTicks_append_of_enough`):

    pc + number of ticks > length of the program  →  runTicks (ticks ++ more) = runTicks ticks

The clock itself counts the completions that are not asked for.  So the limit is a saving of work
and nothing else: with it and without it a frame leaves the same session, the same clocks and the
same journal (`Session.tick_cap_invisible`).
-/

namespace RobotWorkshop

namespace Session

/-- A run that goes on after a tick has executed an instruction in it. -/
theorem instruction_of_tick {s : Session} (goesOn : s.tick.result = .ok true) :
    ∃ i, s.holdings.program.sequence[s.interpreter.pc]? = some i := by
  cases here : s.holdings.program.sequence[s.interpreter.pc]? with
  | some i => exact ⟨i, rfl⟩
  | none =>
    unfold tick Interpreter.tick? at goesOn
    rw [here] at goesOn
    split at goesOn
    · cases goesOn
    · rename_i ticked found
      split at found
      · cases found
      · obtain rfl := Except.ok.inj found
        obtain ⟨answer, t, -, ended⟩ := Attempt.Gives.of_andThen (t := _) ⟨goesOn, rfl⟩
        cases ended.result

/-- **Run lemma.**  Ticks that are enough to find the end of the program leave nothing to the ticks
behind them. -/
theorem runTicks_append_of_enough {s : Session} {bombAt : Option Int} {offsets : List Int}
    (rest : List Int) (inside : s.interpreter.pc ≤ s.holdings.program.length)
    (enough : s.holdings.program.length < s.interpreter.pc + offsets.length) :
    s.runTicks bombAt (offsets ++ rest) = s.runTicks bombAt offsets := by
  induction offsets generalizing s with
  | nil =>
    simp only [List.length_nil] at enough
    omega
  | cons offset offsets ih =>
    rw [List.length_cons] at enough
    rw [List.cons_append, runTicks, runTicks]
    by_cases late : bombAt.any (· ≤ offset) = true
    · rw [if_pos late, if_pos late]
    · rw [if_neg late, if_neg late]
      refine Attempt.andThen_congr fun goesOn succeeded => ?_
      cases goesOn with
      | false => rfl
      | true =>
        -- an instruction was executed, so the counter has moved on
        obtain ⟨i, here⟩ := instruction_of_tick succeeded
        have within : s.interpreter.pc < s.holdings.program.length :=
          (List.getElem?_eq_some_iff.mp here).1
        rw [(tick_of_instruction here).state, if_pos rfl, if_pos rfl]
        apply ih
        · exact within
        · show s.holdings.program.length < s.interpreter.pc + 1 + offsets.length
          omega

/-- A cap that the rest of the program fits under makes no difference to a frame. -/
theorem advanceUpTo_of_enough {s : Session} {ticks bomb : Timer} {cap : Int}
    (clocks : s.interpreter.clocks = .armed ticks bomb) (cycling : ticks.Cycling)
    (inside : s.interpreter.pc ≤ s.holdings.program.length) (enough : s.pendingTicks ≤ cap)
    (dt : Int) : s.advanceUpTo (some cap) dt = s.advanceUpTo none dt := by
  unfold advanceUpTo
  rw [clocks]
  dsimp only
  cases bomb_ticked : bomb.tick dt none with
  | error fault => rfl
  | ok bombLeft =>
    have dt_nonneg := Timer.nonneg_of_tick bomb_ticked
    -- both ask for the first completions; without the cap more of them may follow
    rw [cycling.tick_eq (some cap) dt_nonneg, cycling.tick_eq none dt_nonneg]
    dsimp only
    congr 1
    generalize ((ticks.elapsed + dt) / ticks.duration).toNat = k
    by_cases fits : k ≤ cap.toNat
    · rw [Timer.reported, Timer.reported, Option.elim_some, Option.elim_none, Nat.min_eq_right fits]
    · have cut : Timer.reported none k = Timer.reported (some cap) k + (k - cap.toNat) := by
        simp only [Timer.reported, Option.elim_some, Option.elim_none]
        omega
      rw [cut, beats_add, runTicks_append_of_enough]
      · exact inside
      · rw [length_beats, Timer.reported, Option.elim_some]
        unfold pendingTicks at enough
        show s.holdings.program.length < s.interpreter.pc + _
        omega

theorem InRun.cycling {s : Session} {ticks bomb : Timer} (h : s.InRun ticks bomb) : ticks.Cycling :=
  ⟨h.ticks_running, h.ticks_repeating, h.elapsed_nonneg, h.elapsed_lt⟩

theorem Possible.advance_eq {s : Session} (h : s.Possible) (dt : Int) :
    s.advance dt = s.advanceUpTo none dt := by
  unfold advance
  rcases h with (rest | ⟨ticks, bomb, run⟩) | stranded
  · have no_bomb : s.interpreter.clocks.bomb? = none := by rw [rest.idle]; rfl
    rw [advanceUpTo_of_no_bomb no_bomb, advanceUpTo_of_no_bomb no_bomb]
  · exact advanceUpTo_of_enough run.clocks run.cycling run.pc_le (Int.le_refl _) dt
  · rw [advanceUpTo_of_no_bomb stranded.no_bomb, advanceUpTo_of_no_bomb stranded.no_bomb]

/-- **The cap does not show.**  After any history, the run stage of a frame comes to the same, in
its answer, in the session and in the journal, as one that asks for every completion in the frame.
In a run both succeed. -/
theorem tick_cap_invisible (holdings : Holdings) (level : Level) (moves : List Move) (dt : Int) :
    let s := (Session.new holdings level).after moves
    s.advance dt = s.advanceUpTo none dt ∧
      ((Session.new holdings level).NoStartRaises moves → s.running = true → 0 ≤ dt →
        (s.advance dt).result = .ok ()) := by
  intro s
  refine ⟨(after_possible holdings level moves).advance_eq dt, fun ok running dt_nonneg => ?_⟩
  obtain ⟨ticks, bomb, run⟩ := (after_steady ok).inRun running
  exact (run.advance_gives dt_nonneg).result

/-- A frame of three and a half periods, in which the rest of the program takes two of three ticks:
the second step finds a gear, and the run is over at the third. -/
theorem tick_cap_invisible_two_steps :
    let level : Level := { layout := [(⟨2, 0⟩, 5)] }
    let moves : List Move := [.dispatch (.command .startRun), .drain]
    let s := (Session.new .twoSteps level).after moves
    (Session.new .twoSteps level).NoStartRaises moves ∧ s.running = true ∧ s.pendingTicks = 2 ∧
      s.advance 350000000 = s.advanceUpTo none 350000000 ∧
      (s.advance 350000000).result = .ok () ∧
      (s.advance 350000000).state.running = false ∧
      (s.advance 350000000).state.lastOutcome = some .success ∧
      (s.advance 350000000).state.runElapsed = 200000000 ∧
      (s.advance 350000000).state.queue = [.command (.pickUp 5)] ∧
      (s.advance 350000000).state.outbox =
        [.tickExecuted .moveForward 1, .runCompleted .success 2, .phaseChanged .buying] := by
  intro level moves s
  have ok : (Session.new .twoSteps level).NoStartRaises moves := by decide +kernel
  have running : s.running = true := by decide +kernel
  have pending : s.pendingTicks = 2 := by decide +kernel
  obtain ⟨same, succeeds⟩ := tick_cap_invisible .twoSteps level moves 350000000
  exact ⟨ok, running, pending, same, succeeds ok running (by decide), by decide +kernel,
    by decide +kernel, by decide +kernel, by decide +kernel, by decide +kernel⟩

end Session

end RobotWorkshop
