import RobotWorkshop.Proofs.Ledger

/-!
The grammar of what a session tells.  Between runs it tells of purchases and of the balance.  A run
begins with a change of phase, its ticks are told with the counters 0, 1, 2, …, among them changes
of the balance, and it ends in one of two ways: it is over, which is told at once before the change
of phase, or it is given up by a reset.

    shop  --phase running-->  run 0,    run n  --tick n-->  run (n + 1),
    run n  --completed n, phase buying-->  shop,    run n  --phase buying, by a reset-->  shop

What a session has told by any time leads from the shop to where it stands (`Session.tells`).
-/

namespace RobotWorkshop

/-- The node that an event tells was bought. -/
def Event.bought : Event → Option Int
  | .upgradePurchased _ index => some index
  | _ => none

/-- The phase that an event tells was entered. -/
def Event.phase : Event → Option Phase
  | .phaseChanged phase => some phase
  | _ => none

namespace Session

/-- An event, with the moment in which it is told. -/
structure Told where
  event : Event
  moment : Moment

/-- All that is told in some moments. -/
def story (ms : List Moment) : List Told := ms.flatMap fun m => m.news.map (Told.mk · m)

/-- The grammar of what is told until a session stands in the shop (`none`) or in a run of which so
many ticks have been told. -/
inductive Tells : Option Nat → List Told → Prop where
  | nothing : Tells none []
  | shop {told : List Told} {t : Told} (before : Tells none told) (of_shop : t.event.ofRun = false) :
      Tells none (told ++ [t])
  | begun {told : List Told} {t : Told} (before : Tells none told)
      (event : t.event = .phaseChanged .running) : Tells (some 0) (told ++ [t])
  | ticked {n : Nat} {i : Instruction} {told : List Told} {t : Told} (before : Tells (some n) told)
      (event : t.event = .tickExecuted i n) : Tells (some (n + 1)) (told ++ [t])
  | credited {n : Nat} {balance : Int} {told : List Told} {t : Told} (before : Tells (some n) told)
      (event : t.event = .walletChanged balance) : Tells (some n) (told ++ [t])
  /-- A run that is over, with success only at the end of the program. -/
  | completed {n : Nat} {outcome : Outcome} {told : List Told} {t t' : Told}
      (before : Tells (some n) told) (event : t.event = .runCompleted outcome n)
      (through : outcome = .success → n = t.moment.before.holdings.program.length)
      (event' : t'.event = .phaseChanged .buying) : Tells none (told ++ [t, t'])
  /-- A run that is given up, by a reset that is carried out. -/
  | givenUp {n : Nat} {told : List Told} {t : Told} (before : Tells (some n) told)
      (event : t.event = .phaseChanged .buying)
      (reset : t.moment.carriedOut = some .resetToBuying) : Tells none (told ++ [t])

variable {told : List Told}

/-! ## Changes of phase -/

/-- The phase of a session that stands there. -/
def phaseAt : Option Nat → Phase
  | none => .buying
  | some _ => .running

/-- The phase at the start and all that are entered after it. -/
def phasesOf (events : List Event) : List Phase := .buying :: events.filterMap Event.phase

/-- The phases alternate up to this one. -/
structure AlternateTo (phases : List Phase) (last : Phase) : Prop where
  alternate : phases.IsChain (· ≠ ·)
  last : phases.getLast? = some last

theorem AlternateTo.snoc {phases : List Phase} {last next : Phase} (h : AlternateTo phases last)
    (other : last ≠ next) : AlternateTo (phases ++ [next]) next where
  alternate := by
    rw [List.isChain_append]
    refine ⟨h.alternate, List.isChain_singleton _, ?_⟩
    intro x found y found'
    rw [h.last] at found
    obtain rfl : last = x := Option.some.inj found
    obtain rfl : next = y := Option.some.inj found'
    exact other
  last := List.getLast?_concat

theorem phasesOf_snoc (told : List Told) (t : Told) :
    phasesOf ((told ++ [t]).map Told.event) =
      phasesOf (told.map Told.event) ++ t.event.phase.toList := by
  rw [phasesOf, phasesOf, List.map_append, List.filterMap_append, ← List.cons_append]
  rfl

/-- The phases that are told alternate, and the last of them is where the session stands. -/
theorem Tells.alternates {standing : Option Nat} (h : Tells standing told) :
    AlternateTo (phasesOf (told.map Told.event)) (phaseAt standing) := by
  -- what is told of no phase leaves them as they are
  have silently : ∀ {told : List Told} {t : Told} {phase : Phase}, t.event.phase = none →
      AlternateTo (phasesOf (told.map Told.event)) phase →
      AlternateTo (phasesOf ((told ++ [t]).map Told.event)) phase := by
    intro told t phase silent kept
    rwa [phasesOf_snoc, silent, Option.toList_none, List.append_nil]
  have entering : ∀ {told : List Told} {t : Told} {phase next : Phase},
      t.event = .phaseChanged next → phase ≠ next → AlternateTo (phasesOf (told.map Told.event)) phase →
      AlternateTo (phasesOf ((told ++ [t]).map Told.event)) next := by
    intro told t phase next event other kept
    rw [phasesOf_snoc, event]
    exact kept.snoc other
  induction h with
  | nothing => exact ⟨List.isChain_singleton _, rfl⟩
  | @shop told t before of_shop ih =>
    refine silently ?_ ih
    cases event : t.event with
    | phaseChanged phase => rw [event] at of_shop; cases of_shop
    | _ => rfl
  | begun before event ih => exact entering event Phase.noConfusion ih
  | ticked before event ih => exact silently (by rw [event]; rfl) ih
  | credited before event ih => exact silently (by rw [event]; rfl) ih
  | @completed n outcome told t t' before event through event' ih =>
    have ended : AlternateTo (phasesOf ((told ++ [t]).map Told.event)) .running :=
      silently (by rw [event]; rfl) ih
    have entered := entering event' Phase.noConfusion ended
    rwa [List.append_assoc] at entered
  | givenUp before event reset ih => exact entering event Phase.noConfusion ih

/-! ## Turns -/

/-- Where a session stands. -/
def standing (s : Session) : Option Nat := if s.running then some s.ticks else none

theorem standing_of_running {s : Session} (running : s.running = true) : s.standing = some s.ticks :=
  if_pos running

theorem standing_of_buying {s : Session} (buying : s.running = false) : s.standing = none :=
  if_neg (by simp [buying])

theorem Tells.shops {events : List Event} (h : Tells none told) (m : Moment)
    (of_shop : ∀ e ∈ events, e.ofRun = false) : Tells none (told ++ events.map (Told.mk · m)) := by
  induction events generalizing told with
  | nil => simpa using h
  | cons e events ih =>
    have first : Tells none (told ++ [⟨e, m⟩]) := h.shop (of_shop e List.mem_cons_self)
    have others := ih first fun e' mem => of_shop e' (List.mem_cons_of_mem _ mem)
    rwa [List.append_assoc] at others

theorem Tells.ticks {p : Program} {n count : Nat} (h : Tells (some n) told) (m : Moment)
    (fit : n + count ≤ p.length) :
    Tells (some (n + count)) (told ++ (p.ticksFrom n count).map (Told.mk · m)) := by
  induction count with
  | zero => simpa [Program.ticksFrom] using h
  | succ count ih =>
    have inside : n + count < p.sequence.length := by
      unfold Program.length at fit
      omega
    rw [Program.ticksFrom_add, Program.ticksFrom_one (List.getElem?_eq_getElem inside), List.map_append,
      ← List.append_assoc]
    exact (ih (by omega)).ticked rfl

/-- What a run comes to by itself. -/
theorem Tells.runs {s t : Session} {events : List Event} {m : Moment} (h : Tells (some s.ticks) told)
    (running : s.running = true) (counted : s.interpreter.pc = s.ticks)
    (same : m.before.holdings.program.length = s.holdings.program.length) (runs : s.Runs events t) :
    Tells t.standing (told ++ events.map (Told.mk · m)) := by
  cases runs with
  | @goesOn n clocks time fit =>
    have ticked := (executed_counters fit).2
    have goes_on : ((s.executed n).clocked clocks time).standing = some (s.ticks + n) := by
      rw [← ticked]
      exact standing_of_running (congrArg PhaseMachine.running (s.executed_phases n) |>.trans running)
    rw [goes_on, counted]
    exact h.ticks m (counted ▸ fit)
  | @ends n outcome time fit through =>
    have finished : ((s.executed n).ended outcome time).standing = none := standing_of_buying rfl
    rw [finished, counted, List.map_append, ← List.append_assoc]
    refine (h.ticks m (counted ▸ fit)).completed rfl ?_ rfl
    intro success
    have at_end := through success
    rw [same]
    omega

theorem story_snoc (ms : List Moment) (m : Moment) :
    story (ms ++ [m]) = story ms ++ m.news.map (Told.mk · m) := by
  simp [story]

/-- **Step lemma.** -/
theorem Tells.turn {ms : List Moment} {m : Moment} (h : Tells m.prepared.standing (story ms))
    (turn : m.prepared.Turn m.carriedOut m.news m.after) :
    Tells m.after.standing (story (ms ++ [m])) := by
  have same : m.before.holdings.program.length = m.prepared.holdings.program.length := by
    rw [Moment.prepared, prepared_holdings]
  rw [story_snoc]
  generalize m.prepared = s at h turn same
  generalize carried : m.carriedOut = c at turn
  generalize m.news = events at turn ⊢
  generalize m.after = t at turn ⊢
  cases turn with
  | still => simpa using h
  | ran running counted runs =>
    rw [standing_of_running running] at h
    exact h.runs running counted same runs
  | stranded buying =>
    rw [standing_of_buying buying] at h
    exact h.begun rfl
  | @began interpreter events t buying fresh runs =>
    rw [standing_of_buying buying] at h
    have entered : Tells (some (s.atStart interpreter).ticks) (story ms ++ [⟨_, m⟩]) := h.begun rfl
    have told := entered.runs rfl fresh same runs
    rwa [List.append_assoc] at told
  | givenUp running =>
    rw [standing_of_running running] at h
    exact h.givenUp rfl carried
  | @bought index sale buying sold =>
    have there : (s.bought index sale).standing = s.standing := rfl
    rw [there, standing_of_buying buying] at *
    exact h.shops m (s.receipt_ofRun index sale)
  | @added i program buying unlocked fits =>
    have there : (s.withProgram program).standing = s.standing := rfl
    rw [there]
    simpa using h
  | @removed index i program buying found =>
    have there : (s.withProgram program).standing = s.standing := rfl
    rw [there]
    simpa using h
  | @credited amount wallet taken =>
    have there : (s.withWallet wallet).standing = s.standing := rfl
    rw [there]
    cases running : s.running with
    | true =>
      rw [standing_of_running running] at h ⊢
      exact h.credited rfl
    | false =>
      rw [standing_of_buying running] at h ⊢
      exact h.shop rfl

/-- What has been told leads to where the session stands. -/
theorem tells (holdings : Holdings) (level : Level) (hs : List Happening) :
    Tells ((Session.new holdings level).through hs).standing
      (story ((Session.new holdings level).trace hs)) :=
  history_induction (P := fun ms t => Tells t.standing (story ms)) .nothing
    (fun _ _ _ _ _ told => told) (fun _ _ told turn => told.turn turn) hs

/-! ## Purchases -/

theorem bought_ticksFrom (p : Program) (start count : Nat) :
    (p.ticksFrom start count).filterMap Event.bought = [] := by
  rw [List.filterMap_eq_nil_iff]
  intro e mem
  have of_tick := p.ofTick_ticksFrom start count e mem
  cases e with
  | tickExecuted i pc => rfl
  | _ => cases of_tick

theorem Runs.bought {s t : Session} {events : List Event} (runs : s.Runs events t) :
    events.filterMap Event.bought = [] := by
  cases runs with
  | goesOn fit => exact bought_ticksFrom _ _ _
  | ends fit through => rw [List.filterMap_append, bought_ticksFrom]; rfl

/-- A turn tells of the purchase that is carried out in it, and of no other. -/
theorem Turn.bought_eq {s t : Session} {c : Option Command} {events : List Event}
    (turn : s.Turn c events t) :
    events.filterMap Event.bought = (c.bind Command.wanted).toList := by
  cases turn with
  | ran running counted runs => exact runs.bought
  | began buying fresh runs => exact runs.bought
  | @bought index sale buying sold =>
    rw [receipt]
    cases ({ s.holdings with upgrades := sale.graph, wallet := sale.wallet }.apply
      sale.node.kind).unlocked <;> rfl
  | _ => rfl

theorem news_bought (holdings : Holdings) (level : Level) (hs : List Happening) :
    (((Session.new holdings level).trace hs).flatMap Moment.news).filterMap Event.bought =
      purchases ((Session.new holdings level).trace hs) := by
  have turns := trace_turn holdings level hs
  generalize (Session.new holdings level).trace hs = ms at turns
  induction ms with
  | nil => rfl
  | cons m ms ih =>
    have first := (turns m List.mem_cons_self).bought_eq
    have others := ih fun m' mem => turns m' (List.mem_cons_of_mem _ mem)
    rw [List.flatMap_cons, List.filterMap_append, first, others]
    show [m].filterMap Moment.purchase ++ ms.filterMap Moment.purchase = ([m] ++ ms).filterMap _
    rw [List.filterMap_append]

/-! ## The stream -/

theorem story_event (ms : List Moment) : (story ms).map Told.event = ms.flatMap Moment.news := by
  simp [story, List.map_flatMap, Function.comp_def]

/-- **The grammar of the event stream.**  Whatever a host does with a new session, all that is told,
in order, follows the grammar; the changes of phase alternate, a run first; no node is told to be
bought twice. -/
theorem stream_grammatical (holdings : Holdings) (level : Level) (moves : List Move) :
    let s := Session.new holdings level
    let told := story (s.trace (s.happenings moves))
    told.map Told.event = s.stream moves ∧
      Tells (s.after moves).standing told ∧
      (phasesOf (s.stream moves)).IsChain (· ≠ ·) ∧
      ((s.stream moves).filterMap Event.bought).Nodup := by
  intro s told
  have grammatical : Tells (s.after moves).standing told := by
    rw [after_eq_through]
    exact tells holdings level _
  have same : told.map Told.event = s.stream moves := by
    rw [stream_eq_news]
    exact story_event _
  refine ⟨same, grammatical, ?_, ?_⟩
  · rw [← same]
    exact grammatical.alternates.alternate
  · have once := (accounted holdings level (s.happenings moves)).once
    rw [← news_bought] at once
    rwa [stream_eq_news]

end Session

end RobotWorkshop
