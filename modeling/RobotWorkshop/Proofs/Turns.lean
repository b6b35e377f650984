import RobotWorkshop.Proofs.FailedStart
import RobotWorkshop.Proofs.Happenings
import RobotWorkshop.Proofs.Surroundings

/-!
What one happening can make of a session, said once.  First the host's part is done: a command is
queued or taken from the queue, the outbox is handed over, the controls are set
(`Session.prepared`).  The rest is one of nine turns (`Session.Turn`), each with the command that is
carried out and what is told (`Session.befall_turn`).  What holds of every history is proved by
cases on them (`Session.history_induction`).
-/

namespace RobotWorkshop

namespace Session

/-! ## What a run does by itself -/

/-- What a run can come to, short of being given up, and what is told of it. -/
inductive Runs (s : Session) : List Event → Session → Prop where
  | goesOn {n : Nat} {clocks : Clocks} {time : Int}
      (fit : s.interpreter.pc + n ≤ s.holdings.program.length) :
      Runs s (s.holdings.program.ticksFrom s.interpreter.pc n) ((s.executed n).clocked clocks time)
  | ends {n : Nat} {outcome : Outcome} {time : Int}
      (fit : s.interpreter.pc + n ≤ s.holdings.program.length)
      (through : outcome = .success → s.interpreter.pc + n = s.holdings.program.length) :
      Runs s
        (s.holdings.program.ticksFrom s.interpreter.pc n ++
          [.runCompleted outcome (s.ticks + n), .phaseChanged .buying])
        ((s.executed n).ended outcome time)

theorem executed_outbox (s : Session) (n : Nat) :
    (s.executed n).outbox = s.outbox ++ s.holdings.program.ticksFrom s.interpreter.pc n := by
  obtain ⟨found, same⟩ := s.executed_amid n
  exact congrArg (·.outbox) (same s.surroundings)

theorem Runs.outbox {s t : Session} {told : List Event} (h : s.Runs told t) :
    t.outbox = s.outbox ++ told := by
  cases h with
  | @goesOn n clocks time fit => exact s.executed_outbox n
  | @ends n outcome time fit through =>
    show (s.executed n).outbox ++
      [.runCompleted outcome (s.executed n).ticks, .phaseChanged .buying] = _
    rw [executed_outbox, (executed_counters fit).2, List.append_assoc]

theorem executed_queue (s : Session) (n : Nat) :
    ∃ found, (s.executed n).queue = s.queue ++ pickUps found := by
  obtain ⟨found, same⟩ := s.executed_amid n
  exact ⟨found, congrArg (·.queue) (same s.surroundings)⟩

theorem Runs.queue {s t : Session} {told : List Event} (h : s.Runs told t) :
    ∃ found, t.queue = s.queue ++ pickUps found := by
  cases h with
  | @goesOn n clocks time fit => exact s.executed_queue n
  | @ends n outcome time fit through => exact s.executed_queue n

theorem InRun.runUntil_runs {s : Session} {ticks bomb : Timer} (h : s.InRun ticks bomb) (t : Int) :
    ∃ told, s.Runs told (s.runUntil ticks bomb t) := by
  have pc_le := h.pc_le
  rcases s.runUntil_cases ticks bomb t with
    ⟨before_end, before_bomb⟩ | ⟨at_end, before_bomb⟩ | ⟨at_bomb, not_through⟩
  · rw [runUntil_of_lt before_end before_bomb]
    have quotient_lt : t / ticks.duration < s.holdings.program.length :=
      Int.ediv_lt_of_lt_mul ticks.duration_pos before_end
    exact ⟨_, .goesOn (by omega)⟩
  · rw [runUntil_of_through at_end before_bomb]
    exact ⟨_, .ends (by omega) (by omega)⟩
  · rw [runUntil_of_bomb at_bomb not_through]
    have bounds := h.ticksBefore_bounds not_through
    exact ⟨_, .ends (by omega) (by simp)⟩

/-! ## Turns -/

/-- The events that tell of a purchase. -/
def receipt (s : Session) (index : Int) (sale : Sale) : List Event :=
  let applied :=
    { s.holdings with upgrades := sale.graph, wallet := sale.wallet }.apply sale.node.kind
  .upgradePurchased sale.node.kind index ::
    (applied.unlocked.toList.map fun i => Event.unlocksChanged i.category i) ++
    [.walletChanged applied.holdings.wallet.balance]

theorem receipt_ofRun (s : Session) (index : Int) (sale : Sale) :
    ∀ e ∈ s.receipt index sale, e.ofRun = false := by
  intro e mem
  simp only [receipt, List.cons_append, List.mem_cons, List.mem_append, List.mem_map,
    List.not_mem_nil, or_false] at mem
  rcases mem with rfl | ⟨i, -, rfl⟩ | rfl <;> rfl

/-- What can become of a session, with the command that is carried out and what is told. -/
inductive Turn (s : Session) : Option Command → List Event → Session → Prop where
  | still : Turn s none [] s
  | ran {told : List Event} {t : Session} (running : s.running = true)
      (counted : s.interpreter.pc = s.ticks) (runs : s.Runs told t) : Turn s none told t
  /-- A start that a fault stops. -/
  | stranded {interpreter : Interpreter} (buying : s.running = false) :
      Turn s none [.phaseChanged .running] (s.atStart interpreter)
  | began {interpreter : Interpreter} {told : List Event} {t : Session} (buying : s.running = false)
      (fresh : interpreter.pc = 0) (runs : (s.atStart interpreter).Runs told t) :
      Turn s (some .startRun) (.phaseChanged .running :: told) t
  | givenUp (running : s.running = true) :
      Turn s (some .resetToBuying) [.phaseChanged .buying] s.givenUp
  | bought {index : Int} {sale : Sale} (buying : s.running = false)
      (sold : s.holdings.upgrades.buy? index s.holdings.wallet = .ok sale) :
      Turn s (some (.purchase index)) (s.receipt index sale) (s.bought index sale)
  | added {i : Instruction} {program : Program} (buying : s.running = false)
      (unlocked : i ∈ s.holdings.unlocks) (fits : s.holdings.program.append? i = .ok program) :
      Turn s (some (.addInstruction i)) [] (s.withProgram program)
  | removed {index : Int} {i : Instruction} {program : Program} (buying : s.running = false)
      (found : s.holdings.program.remove? index = .ok (i, program)) :
      Turn s (some (.removeInstruction index)) [] (s.withProgram program)
  | credited {amount : Int} {wallet : Wallet}
      (taken : s.holdings.wallet.deposit? amount = .ok wallet) :
      Turn s (some (.pickUp amount)) [.walletChanged wallet.balance] (s.withWallet wallet)

variable {s t : Session} {told : List Event}

theorem Turn.outbox {c : Option Command} (h : s.Turn c told t) : t.outbox = s.outbox ++ told := by
  cases h with
  | still => exact (List.append_nil _).symm
  | ran running counted runs => exact runs.outbox
  | stranded buying => rfl
  | began buying fresh runs => exact runs.outbox.trans (List.append_assoc _ _ _)
  | givenUp running => rfl
  | bought buying sold => exact List.append_assoc _ _ _
  | added buying unlocked fits => exact (List.append_nil _).symm
  | removed buying found => exact (List.append_nil _).symm
  | credited taken => rfl

/-- Only what is found in a run is queued. -/
theorem Turn.queue {c : Option Command} (h : s.Turn c told t) :
    ∃ found, t.queue = s.queue ++ pickUps found := by
  have unchanged : ∃ found, s.queue = s.queue ++ pickUps found := ⟨[], (List.append_nil _).symm⟩
  cases h with
  | ran running counted runs => exact runs.queue
  | began buying fresh runs => exact runs.queue
  | _ => exact unchanged

/-- The start of a run is a turn. -/
theorem beginRun_turn (buying : s.running = false) :
    ∃ told, s.Turn (Submission.carriedOut (.command .startRun)
        ((s.beginRun (.entered .running)).andThen fun t () => .done t true).result) told
      ((s.beginRun (.entered .running)).andThen fun t () => .done t true).state := by
  by_cases can : s.holdings.CanRun
  · obtain ⟨tick, bomb, clocked⟩ := can
    let start := s.armed (.fresh tick true clocked.tick_pos) (.fresh bomb false clocked.bomb_pos)
    rcases Nat.eq_zero_or_pos s.holdings.program.length with empty | nonempty
    · obtain ⟨result, state⟩ :
          ((s.beginRun (.entered .running)).andThen fun t () => .done t true).Gives true _ :=
        (beginRun_gives_of_empty clocked empty).andThen (Attempt.gives_done _ _ _)
      rw [result, state]
      have none_left : start.interpreter.pc + 0 = start.holdings.program.length := empty.symm
      exact ⟨_, .began buying rfl (.ends (n := 0) (Nat.le_of_eq none_left) fun _ => none_left)⟩
    · obtain ⟨result, state⟩ :
          ((s.beginRun (.entered .running)).andThen fun t () => .done t true).Gives true _ :=
        (beginRun_gives clocked nonempty).andThen (Attempt.gives_done _ _ _)
      rw [result, state]
      have first : start.interpreter.pc + 1 ≤ start.holdings.program.length := nonempty
      have runs : start.Runs _ ((start.executed 1).clocked (start.executed 1).interpreter.clocks
        (start.executed 1).runElapsed) := .goesOn first
      exact ⟨_, .began buying rfl runs⟩
  · obtain ⟨⟨fault, failed, -⟩, state⟩ := beginRun_fails can
    obtain ⟨result, state'⟩ := Attempt.andThen_of_error (fun t () => Attempt.done t true) failed
    rw [result, state', state]
    exact ⟨_, .stranded buying⟩

/-- A command is a turn. -/
theorem dispatch_turn (s : Session) (item : Submission) :
    ∃ told, s.Turn (item.carriedOut (s.dispatch item).result) told (s.dispatch item).state := by
  have carried := dispatch_carried s item
  generalize s.dispatch item = a at carried ⊢
  cases carried with
  | unknown shown => exact ⟨_, .still⟩
  | refused c journal => exact ⟨_, .still⟩
  | untold c => exact ⟨_, .still⟩
  | started buying active => exact beginRun_turn buying
  | reset journal running active => exact ⟨_, .givenUp running⟩
  | bought journal buying sold => exact ⟨_, .bought buying sold⟩
  | added journal buying unlocked fits => exact ⟨_, .added buying unlocked fits⟩
  | removed journal buying found => exact ⟨_, .removed buying found⟩
  | credited journal taken => exact ⟨_, .credited taken⟩

/-- Working off the queue tells more behind what was told. -/
theorem runQueue_outbox (s : Session) : s.outbox <+: s.runQueue.state.outbox := by
  refine runQueue_induction (P := fun t => s.outbox <+: t.outbox) (fun _ _ told => told) ?_
    List.prefix_rfl
  intro t item _ told
  obtain ⟨news, turn⟩ := t.dispatch_turn item
  exact told.trans ⟨news, turn.outbox.symm⟩

/-- The run stage of a frame is a turn. -/
theorem Possible.runStage_turn (h : s.Possible) (seconds : Float) :
    ∃ told, s.Turn none told (s.runStage seconds).state := by
  rcases h with (rest | ⟨ticks, bomb, run⟩) | stranded
  · rw [runStage_of_buying rest.buying]
    exact ⟨_, .still⟩
  · rcases ofSeconds?_nonneg_or seconds with ⟨dt, nanos, nonneg⟩ | bad
    · rw [(run.runStage_gives nanos nonneg).state]
      obtain ⟨told, runs⟩ := run.runUntil_runs (s.runElapsed + dt)
      exact ⟨told, .ran run.running run.pc_eq_ticks runs⟩
    · rw [(run.runStage_fails bad).1]
      exact ⟨_, .still⟩
  · rw [(stranded.runStage seconds).1]
    exact ⟨_, .still⟩

/-! ## Happenings -/

/-- The session with the host's part of a happening done. -/
def prepared (s : Session) : Happening → Session
  | .submit item => s.submit item
  | .take => { s with queue := s.queue.tail }
  | .drain => s.drain.2
  | .setControls controls => { s with phases := { s.phases with controls } }
  | .pass _ | .dispatch _ => s

/-- A property that does not look at the queue, the outbox or the controls is kept by the host's
part. -/
theorem prepared_of_loose {P : Session → Prop}
    (loose : ∀ t queue outbox controls, P t →
      P { t with queue, outbox, phases := { t.phases with controls } }) (h : P s) (what : Happening) :
    P (s.prepared what) := by
  cases what with
  | submit item => exact loose s (s.queue ++ [item]) s.outbox s.phases.controls h
  | take => exact loose s s.queue.tail s.outbox s.phases.controls h
  | drain => exact loose s s.queue [] s.phases.controls h
  | setControls controls => exact loose s s.queue s.outbox controls h
  | pass seconds => exact h
  | dispatch item => exact h

theorem Possible.prepared (h : s.Possible) (what : Happening) : (s.prepared what).Possible :=
  prepared_of_loose (fun _ _ _ _ kept => kept.congr rfl rfl rfl rfl rfl) h what

@[simp] theorem prepared_holdings (s : Session) (what : Happening) :
    (s.prepared what).holdings = s.holdings := by
  cases what <;> rfl

theorem prepared_outbox (s : Session) {what : Happening} (undrained : what ≠ .drain) :
    (s.prepared what).outbox = s.outbox := by
  cases what with
  | drain => exact absurd rfl undrained
  | _ => rfl

/-- The session of a moment, with the host's part done. -/
def Moment.prepared (m : Moment) : Session := m.before.prepared m.happening

/-- **Every happening** is the host's part and a turn. -/
theorem befall_turn (h : s.Possible) (what : Happening) :
    (s.prepared what).Turn (Moment.carriedOut ⟨s, what⟩) (Moment.news ⟨s, what⟩)
      (s.befall what).state := by
  have some_turn : ∃ told, (s.prepared what).Turn (Moment.carriedOut ⟨s, what⟩) told
      (s.befall what).state := by
    cases what with
    | pass seconds =>
      rw [befall_pass]
      exact h.runStage_turn seconds
    | take =>
      cases queue : s.queue with
      | nil =>
        have unchanged : s.prepared .take = s := by
          show { s with queue := s.queue.tail } = s
          rw [queue, List.tail_nil, ← queue]
        have nothing : s.befall .take = .done s false := by simp only [befall, queue]
        have none_given : Moment.given ⟨s, .take⟩ = none := congrArg List.head? queue
        rw [Moment.carriedOut, none_given, unchanged, nothing]
        exact ⟨_, .still⟩
      | cons item rest =>
        have taken := befall_take queue
        have given : Moment.given ⟨s, .take⟩ = some item := congrArg List.head? queue
        have prepared : s.prepared .take = { s with queue := rest } := by
          show { s with queue := s.queue.tail } = _
          rw [queue, List.tail_cons]
        rw [Moment.carriedOut, given, prepared, Moment.attempt, taken]
        exact dispatch_turn _ item
    | dispatch item => exact dispatch_turn s item
    | _ => exact ⟨_, .still⟩
  obtain ⟨told, turn⟩ := some_turn
  -- what is told is what comes behind the outbox of the prepared session
  have same : Moment.news ⟨s, what⟩ = told := by
    have outbox := turn.outbox
    by_cases drained : what = .drain
    · subst drained
      exact (Moment.news_of_drain rfl).trans outbox
    · rw [s.prepared_outbox drained] at outbox
      exact List.append_cancel_left
        ((Moment.after_outbox (m := ⟨s, what⟩) drained).symm.trans outbox)
  rw [same]
  exact turn

theorem Possible.befall (h : s.Possible) (what : Happening) : (s.befall what).state.Possible := by
  cases what with
  | pass seconds =>
    rw [befall_pass]
    rcases h with steady | stranded
    · exact .inl (steady.runStage seconds).1
    · rw [(stranded.runStage seconds).1]
      exact .inr stranded
  | take =>
    cases queue : s.queue with
    | nil =>
      simp only [Session.befall, queue]
      exact h
    | cons item rest =>
      rw [befall_take queue]
      have taken : { s with queue := rest }.Possible := h.congr rfl rfl rfl rfl rfl
      exact taken.dispatch item
  | dispatch item => exact h.dispatch item
  | submit item => exact h.prepared (.submit item)
  | drain => exact h.prepared .drain
  | setControls controls => exact h.prepared (.setControls controls)

/-- **Run lemma for turns.**  What holds of a new session, of no moments, and is kept by the host's
part and by every turn holds at any time of the moments so far. -/
theorem history_induction {P : List Moment → Session → Prop} {holdings : Holdings} {level : Level}
    (start : P [] (Session.new holdings level))
    (loose : ∀ ms t queue outbox controls, P ms t →
      P ms { t with queue, outbox, phases := { t.phases with controls } })
    (turn : ∀ ms (m : Moment), P ms m.prepared → m.prepared.Turn m.carriedOut m.news m.after →
      P (ms ++ [m]) m.after)
    (hs : List Happening) :
    P ((Session.new holdings level).trace hs) ((Session.new holdings level).through hs) := by
  refine (trace_induction (P := fun ms t => t.Possible ∧ P ms t) ?_ ?_ hs).2
  · exact ⟨.inl (.inl (new_resting holdings level)), start⟩
  · rintro ms t what ⟨possible, held⟩
    exact ⟨possible.befall what,
      turn ms ⟨t, what⟩ (prepared_of_loose (loose ms) held what) (befall_turn possible what)⟩

/-- Every moment of a history is a turn. -/
theorem trace_turn (holdings : Holdings) (level : Level) (hs : List Happening) :
    ∀ m ∈ (Session.new holdings level).trace hs, m.prepared.Turn m.carriedOut m.news m.after := by
  refine history_induction (P := fun ms _ => ∀ m ∈ ms, m.prepared.Turn m.carriedOut m.news m.after)
    (fun m mem => nomatch mem) (fun _ _ _ _ _ turns => turns) ?_ hs
  intro ms m turns turn m' mem
  rcases List.mem_append.mp mem with earlier | last
  · exact turns m' earlier
  · rw [List.mem_singleton.mp last]
    exact turn

end Session

end RobotWorkshop
