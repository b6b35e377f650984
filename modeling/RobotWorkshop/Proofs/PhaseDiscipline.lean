import RobotWorkshop.Proofs.Parameters
import RobotWorkshop.Proofs.Refusals

/-!
What each phase may write.  A program is edited only while the shop is open, and only within its
capacity and with instructions that are available (`Holdings.Disciplined`); capacity and
instructions never become less (`Holdings.Grown`).  From the moment that enters a run to the one
that leaves it,

    holdings after = { holdings before with wallet },  balance before ≤ balance after  (Session.Sealed)

whatever is asked for meanwhile (`Session.sealed_of_lasting`).
-/

namespace RobotWorkshop

namespace Holdings

variable {h h' h'' : Holdings}

/-! ## Programs -/

/-- The program is not longer than its capacity and consists of available instructions. -/
structure Disciplined (h : Holdings) : Prop where
  fits : h.program.length ≤ h.program.capacity
  available : ∀ i ∈ h.program.sequence, i ∈ h.unlocks

/-- There is no less room for a program, and every instruction is still available. -/
structure Grown (h h' : Holdings) : Prop where
  capacity : h.program.capacity ≤ h'.program.capacity
  unlocks : ∀ i ∈ h.unlocks, i ∈ h'.unlocks

theorem Grown.refl (h : Holdings) : Grown h h := ⟨Int.le_refl _, fun _ => id⟩

theorem Grown.trans (first : Grown h h') (second : Grown h' h'') : Grown h h'' :=
  ⟨Int.le_trans first.capacity second.capacity, fun i mem => second.unlocks i (first.unlocks i mem)⟩

theorem Disciplined.capacity_nonneg (disciplined : h.Disciplined) : 0 ≤ h.program.capacity :=
  Int.le_trans (Int.natCast_nonneg _) disciplined.fits

/-- The same program, with no less to make it of. -/
theorem Disciplined.grown (disciplined : h.Disciplined) (grown : h.Grown h')
    (same : h'.program.sequence = h.program.sequence) : h'.Disciplined where
  fits := by
    have fits := disciplined.fits
    have capacity := grown.capacity
    unfold Program.length at fits ⊢
    rw [same]
    omega
  available i mem := grown.unlocks i (disciplined.available i (same ▸ mem))

/-- An upgrade takes nothing away. -/
theorem apply_grown (h : Holdings) (kind : UpgradeKind) (nonneg : 0 ≤ h.program.capacity) :
    h.Grown (h.apply kind).holdings := by
  rw [apply_holdings]
  constructor
  · dsimp only
    split
    · show h.program.capacity ≤ h.program.capacity * 2
      omega
    · exact Int.le_refl _
  · intro i mem
    exact (Unlocks.mem_iterate_withConditional _ _ i).mpr (.inl mem)

theorem Traded.grown {c : Option Command} (traded : h.Traded c h') (nonneg : 0 ≤ h.program.capacity) :
    h.Grown h' := by
  cases traded with
  | edited nothing_in nothing_bought => exact ⟨Int.le_refl _, fun _ => id⟩
  | paid positive => exact ⟨Int.le_refl _, fun _ => id⟩
  | @bought index sale i sold =>
    obtain ⟨capacity, unlocks⟩ :=
      apply_grown { h with upgrades := sale.graph, wallet := sale.wallet } sale.node.kind nonneg
    exact ⟨capacity, unlocks⟩

end Holdings

namespace Session

variable {s t u : Session} {c : Option Command} {told : List Event}

/-- **Step lemma for programs.**  An instruction that is added is available and there is room for
it; no other turn makes the program longer. -/
theorem Turn.disciplined (turn : s.Turn c told t) (disciplined : s.holdings.Disciplined) :
    t.holdings.Disciplined := by
  have grown := turn.traded.grown disciplined.capacity_nonneg
  cases turn with
  | still => exact disciplined
  | ran running counted runs => exact disciplined.grown grown (by rw [runs.holdings])
  | stranded buying => exact disciplined
  | began buying fresh runs =>
    exact disciplined.grown grown (by rw [runs.holdings]; rfl)
  | givenUp running => exact disciplined
  | @bought index sale buying sold =>
    have same := Holdings.apply_holdings
      { s.holdings with upgrades := sale.graph, wallet := sale.wallet } sale.node.kind
    exact disciplined.grown grown (congrArg (·.program.sequence) same)
  | @added i program buying unlocked fits =>
    have room : s.holdings.program.length < s.holdings.program.capacity :=
      (s.holdings.program.append?_guarded i).ok_iff.mp ⟨program, fits⟩
    obtain rfl := Program.append?_eq_ok fits
    constructor
    · show ((s.holdings.program.sequence ++ [i]).length : Int) ≤ s.holdings.program.capacity
      rw [List.length_append, List.length_singleton]
      exact room
    · intro j mem
      rcases List.mem_append.mp mem with earlier | last
      · exact disciplined.available j earlier
      · rw [List.mem_singleton.mp last]
        exact unlocked
  | @removed index i program buying found =>
    obtain rfl := Program.remove?_eq_ok found
    have shorter := s.holdings.program.sequence.length_eraseIdx_le index.toNat
    have fits : (s.holdings.program.sequence.length : Int) ≤ s.holdings.program.capacity :=
      disciplined.fits
    constructor
    · show ((s.holdings.program.sequence.eraseIdx index.toNat).length : Int) ≤
        s.holdings.program.capacity
      omega
    · exact fun j mem => disciplined.available j (List.mem_of_mem_eraseIdx mem)
  | credited taken => exact ⟨disciplined.fits, disciplined.available⟩

/-! ## What a run leaves alone -/

/-- Of the holdings nothing but the wallet has changed (the program and its capacity, the available
instructions, the parameters of the robot and the tree are what they were), of the level nothing but
the gears that still lie there, and the balance is no less. -/
structure Sealed (s t : Session) : Prop where
  holdings : t.holdings = { s.holdings with wallet := t.holdings.wallet }
  level : t.level = { s.level with gears := t.level.gears }
  balance : s.holdings.wallet.balance ≤ t.holdings.wallet.balance

theorem Sealed.of_same (holdings : t.holdings = s.holdings)
    (level : t.level = { s.level with gears := t.level.gears }) : s.Sealed t :=
  ⟨by rw [holdings], level, by rw [holdings]⟩

theorem Sealed.refl (s : Session) : s.Sealed s := .of_same rfl rfl

theorem Sealed.trans (first : s.Sealed t) (second : t.Sealed u) : s.Sealed u where
  holdings := by rw [second.holdings, first.holdings]
  level := by rw [second.level, first.level]
  balance := Int.le_trans first.balance second.balance

theorem executed_level (s : Session) (n : Nat) :
    (s.executed n).level = { s.level with gears := (s.executed n).level.gears } := by
  induction n generalizing s with
  | zero => rfl
  | succ n ih =>
    cases h : s.holdings.program.sequence[s.interpreter.pc]? with
    | none => rw [executed_of_past _ h]
    | some i =>
      rw [executed_succ _ h]
      exact ih (s.stepped i)

theorem Runs.sealed (runs : s.Runs told t) : s.Sealed t := by
  refine .of_same runs.holdings ?_
  cases runs with
  | @goesOn n clocks time fit => exact s.executed_level n
  | @ends n outcome time fit through => exact s.executed_level n

/-- A run that does not tell of its end goes on. -/
theorem Runs.running (runs : s.Runs told t) (running : s.running = true)
    (stays : .phaseChanged .buying ∉ told) : t.running = true := by
  cases runs with
  | @goesOn n clocks time fit =>
    show (s.executed n).phases.running = true
    rw [executed_phases]
    exact running
  | ends fit through => exact absurd (List.mem_append_right _ (by simp)) stays

/-- What is done in the shop is not done in a run. -/
theorem not_in_run (buying : s.running = false) (of_shop : ∀ e ∈ told, e.ofRun = false) :
    ¬(s.running = true ∨ .phaseChanged .running ∈ told) := by
  rintro (running | entered)
  · simp [buying] at running
  · cases of_shop _ entered

/-- **Step lemma for runs.**  A turn in a run, or the one that enters it, leaves alone all that the
shop may change; and the run goes on unless its end is told. -/
theorem Turn.in_run (turn : s.Turn c told t)
    (in_run : s.running = true ∨ .phaseChanged .running ∈ told) :
    s.Sealed t ∧ (.phaseChanged .buying ∉ told → t.running = true) := by
  cases turn with
  | still => exact ⟨.refl s, fun _ => in_run.resolve_right List.not_mem_nil⟩
  | ran running counted runs => exact ⟨runs.sealed, runs.running running⟩
  | stranded buying => exact ⟨.of_same rfl rfl, fun _ => rfl⟩
  | @began interpreter told t buying fresh runs =>
    have entered : s.Sealed (s.atStart interpreter) := .of_same rfl rfl
    exact ⟨entered.trans runs.sealed,
      fun stays => runs.running rfl fun mem => stays (List.mem_cons_of_mem _ mem)⟩
  | givenUp running => exact ⟨.of_same rfl rfl, fun stays => absurd List.mem_cons_self stays⟩
  | bought buying sold => exact absurd in_run (not_in_run buying (s.receipt_ofRun _ _))
  | added buying unlocked fits => exact absurd in_run (not_in_run buying nofun)
  | removed buying found => exact absurd in_run (not_in_run buying nofun)
  | credited taken =>
    obtain ⟨positive, rfl⟩ := Wallet.deposit?_eq_ok taken
    have running : s.running = true := in_run.resolve_right (by simp)
    refine ⟨⟨rfl, rfl, ?_⟩, fun _ => running⟩
    show s.holdings.wallet.balance ≤ s.holdings.wallet.balance + _
    omega

theorem prepared_sealed (s : Session) (what : Happening) : s.Sealed (s.prepared what) :=
  .of_same (s.prepared_holdings what) (by cases what <;> rfl)

theorem prepared_running (s : Session) (what : Happening) :
    (s.prepared what).running = s.running := by
  cases what <;> rfl

theorem Moment.in_run {m : Moment} (turn : m.prepared.Turn m.carriedOut m.news m.after)
    (in_run : m.before.running = true ∨ .phaseChanged .running ∈ m.news) :
    m.before.Sealed m.after ∧ (.phaseChanged .buying ∉ m.news → m.after.running = true) := by
  rw [← m.before.prepared_running m.happening] at in_run
  obtain ⟨sealed, stays⟩ := turn.in_run in_run
  exact ⟨(m.before.prepared_sealed m.happening).trans sealed, stays⟩

/-! ## Histories -/

/-- What relates a session to itself, and is kept from moment to moment, relates it to what becomes
of it. -/
theorem through_of_trace {R : Session → Session → Prop} (refl : ∀ s, R s s)
    (trans : ∀ {s t u}, R s t → R t u → R s u) {s : Session} {hs : List Happening}
    (each : ∀ m ∈ s.trace hs, R m.before m.after) : R s (s.through hs) := by
  induction hs generalizing s with
  | nil => exact refl s
  | cons h hs ih =>
    obtain ⟨first, others⟩ := List.forall_mem_cons.mp each
    exact trans first (ih others)

/-- The moments of one run, or of its beginning: the first enters it, and none but the last leaves
it. -/
structure OneRun (ms : List Moment) : Prop where
  enters : ∃ m ∈ ms.head?, .phaseChanged .running ∈ m.news
  lasts : ∀ m ∈ ms.dropLast, .phaseChanged .buying ∉ m.news

/-- **Run lemma for runs.**  Every moment of a run leaves alone all that the shop may change. -/
theorem sealed_of_lasting {hs : List Happening}
    (turns : ∀ m ∈ s.trace hs, m.prepared.Turn m.carriedOut m.news m.after)
    (in_run : s.running = true ∨ ∃ m ∈ (s.trace hs).head?, .phaseChanged .running ∈ m.news)
    (lasts : ∀ m ∈ (s.trace hs).dropLast, .phaseChanged .buying ∉ m.news) :
    ∀ m ∈ s.trace hs, m.before.Sealed m.after := by
  -- induction on the moments: each finds the session running, but for the one that enters the run
  induction hs generalizing s with
  | nil => exact fun m mem => absurd mem List.not_mem_nil
  | cons h hs ih =>
    rw [trace] at turns in_run lasts ⊢
    obtain ⟨turn, turns⟩ := List.forall_mem_cons.mp turns
    have first_in_run : s.running = true ∨ .phaseChanged .running ∈ Moment.news ⟨s, h⟩ := by
      simpa using in_run
    obtain ⟨sealed, stays⟩ := Moment.in_run turn first_in_run
    refine List.forall_mem_cons.mpr ⟨sealed, ?_⟩
    cases hs with
    | nil => exact fun m mem => absurd mem List.not_mem_nil
    | cons h' hs =>
      have running : (s.befall h).state.running = true := stays (lasts _ List.mem_cons_self)
      exact ih turns (.inl running) fun m mem => lasts m (List.mem_cons_of_mem _ mem)

/-- **Run lemma for programs.** -/
theorem disciplined {holdings : Holdings} (at_first : holdings.Disciplined) (level : Level)
    (hs : List Happening) :
    ((Session.new holdings level).through hs).holdings.Disciplined ∧
      ∀ m ∈ (Session.new holdings level).trace hs, m.before.holdings.Grown m.after.holdings := by
  refine history_induction (P := fun ms t =>
    t.holdings.Disciplined ∧ ∀ m ∈ ms, m.before.holdings.Grown m.after.holdings)
    ⟨at_first, fun m mem => nomatch mem⟩ (fun _ _ _ _ _ kept => kept) ?_ hs
  rintro ms m ⟨disciplined, grown⟩ turn
  refine ⟨turn.disciplined disciplined, fun m' mem => ?_⟩
  rcases List.mem_append.mp mem with earlier | last
  · exact grown m' earlier
  · rw [List.mem_singleton.mp last, ← m.before.prepared_holdings m.happening]
    exact turn.traded.grown disciplined.capacity_nonneg

end Session

/-! ## A game from settings -/

theorem Program.new?_fits {capacity : Int} {sequence : List Instruction} {program : Program}
    (h : Program.new? capacity sequence = .ok program) : program.length ≤ program.capacity := by
  obtain rfl := Program.new?_eq_ok h
  unfold new? at h
  split at h
  · cases h
  · split at h
    · cases h
    · rename_i fits
      exact Int.not_lt.mp fits

theorem Holdings.ofSettings?_disciplined {settings : Settings} {h : Holdings}
    (made : Holdings.ofSettings? settings = .ok h) : h.Disciplined := by
  obtain ⟨unlocks, -, made⟩ := bind_eq_ok made
  obtain ⟨cpu, -, made⟩ := bind_eq_ok made
  obtain ⟨program, empty, made⟩ := bind_eq_ok made
  obtain ⟨upgrades, -, made⟩ := bind_eq_ok made
  obtain rfl := Except.ok.inj made
  refine ⟨Program.new?_fits empty, ?_⟩
  obtain rfl := Program.new?_eq_ok empty
  exact fun i mem => nomatch mem

namespace Session

/-- **What each phase may write.**  In a game from settings, at any time, the program is within its
capacity and made of available instructions; from any time to any later one the capacity has not
become less and every instruction is still available; and from the moment that enters a run to the
one that leaves it, nothing but the wallet has changed of the holdings and nothing but the gears of
the level, and the balance only grows.  Moves are made of such happenings. -/
theorem written_by_phase {settings : Settings} {s : Session}
    (made : Session.ofSettings? settings = .ok s) :
    (∀ hs, (s.through hs).holdings.Disciplined) ∧
    (∀ hs more, (s.through hs).holdings.Grown (s.through (hs ++ more)).holdings) ∧
    (∀ hs run, OneRun ((s.through hs).trace run) →
      ∀ earlier later, earlier <+: later → later <+: run →
        (s.through (hs ++ earlier)).Sealed (s.through (hs ++ later))) ∧
    ∀ moves, s.after moves = s.through (s.happenings moves) := by
  obtain ⟨holdings, level, owned, rfl⟩ := ofSettings?_eq_new made
  have at_first := Holdings.ofSettings?_disciplined owned
  refine ⟨fun hs => (disciplined at_first level hs).1, ?grown, ?sealed, after_eq_through _⟩
  case grown =>
    intro hs more
    have grown := (disciplined at_first level (hs ++ more)).2
    rw [trace_append] at grown
    rw [through_append]
    exact through_of_trace (R := fun s t => s.holdings.Grown t.holdings) (fun _ => .refl _) .trans
      fun m mem => grown m (List.mem_append_right _ mem)
  case sealed =>
    rintro hs run ⟨enters, lasts⟩ earlier _ ⟨between, rfl⟩ ⟨rest, rfl⟩
    have turns := trace_turn holdings level (hs ++ (earlier ++ between ++ rest))
    rw [trace_append] at turns
    have each := sealed_of_lasting (fun m mem => turns m (List.mem_append_right _ mem)) (.inr enters)
      lasts
    rw [trace_append, trace_append] at each
    rw [← List.append_assoc, through_append _ (hs ++ earlier), through_append]
    exact through_of_trace Sealed.refl Sealed.trans
      fun m mem => each m (List.mem_append_left _ (List.mem_append_right _ mem))

/-- A run of one step in the standard game, during which an upgrade and a change of the program are
asked for.  The upgrade can be bought as soon as the run is over. -/
theorem written_by_phase_one_step :
    let give (c : Command) : Happening := .dispatch (.command c)
    let hs := [give (.pickUp 10), give (.addInstruction .moveForward)]
    let run := [give .startRun, give (.purchase 0), .submit (.command (.removeInstruction 0)), .take,
      give (.pickUp 5), .pass 1.0]
    let bought := run ++ [give (.purchase 0)]
    ∃ s, Session.ofSettings? .standard = .ok s ∧ OneRun ((s.through hs).trace run) ∧
      (s.through hs).Sealed (s.through (hs ++ run)) ∧
      (s.through (hs ++ run)).holdings.program = ⟨1, [.moveForward]⟩ ∧
      (s.through hs).holdings.Grown (s.through (hs ++ bought)).holdings ∧
      (s.through (hs ++ bought)).holdings.program = ⟨2, [.moveForward]⟩ ∧
      (s.through (hs ++ bought)).holdings.Disciplined := by
  intro give hs run bought
  have evaluated : (Session.ofSettings? .standard).toOption.any (fun s =>
      (∃ m ∈ ((s.through hs).trace run).head?, .phaseChanged .running ∈ m.news) ∧
      (∀ m ∈ ((s.through hs).trace run).dropLast, .phaseChanged .buying ∉ m.news) ∧
      (s.through (hs ++ run)).holdings.program = ⟨1, [.moveForward]⟩ ∧
      (s.through (hs ++ bought)).holdings.program = ⟨2, [.moveForward]⟩) = true := by
    decide +kernel
  cases made : Session.ofSettings? .standard with
  | error fault => rw [made] at evaluated; cases evaluated
  | ok s =>
    rw [made] at evaluated
    obtain ⟨enters, lasts, one, two⟩ := of_decide_eq_true evaluated
    obtain ⟨disciplined, grown, sealed, -⟩ := written_by_phase made
    have is_run : OneRun ((s.through hs).trace run) := ⟨enters, lasts⟩
    have kept := sealed hs run is_run [] run List.nil_prefix (List.prefix_refl run)
    exact ⟨s, rfl, is_run, kept, one, grown hs bought, two, disciplined (hs ++ bought)⟩

end Session

end RobotWorkshop
