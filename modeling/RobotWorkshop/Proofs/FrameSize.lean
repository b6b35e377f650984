import RobotWorkshop.Proofs.Passage
import RobotWorkshop.Proofs.Turns

/-!
Frame-size independence: into how many frames, and how long ones, a span of time is cut makes no
difference.  A run goes on as if there were no frames (`Steady.passed_passed`), and the gears that
it finds are credited in the order in which they are found, whether at the end of one frame or of
several (`Steady.frames_gives`).  So the sessions that are left behind are equal, and so are the
events, up to how those of the run and those of the wallet are interleaved
(`frame_size_independence`).

Gears of a positive value are always credited.  Others are refused, and a level may hold one whose
refusal cannot be put into words; then both ways to cut the time are stopped by it
(`Steady.frames_fails`).
-/

namespace RobotWorkshop

/-! ## Gears that can be answered -/

/-- A pickup of this amount is credited, or refused in words. -/
def Answerable (amount : Int) : Prop := 0 < amount ∨ isWritable amount = true

/-- So is the pickup of each gear that lies on the level, now or after a new start. -/
def Level.Answerable (l : Level) : Prop :=
  ∀ gear ∈ l.gears ++ l.layout, RobotWorkshop.Answerable gear.2

/-- After a new start only the layout counts. -/
theorem Level.restored_answerable {l : Level}
    (h : ∀ gear ∈ l.layout, RobotWorkshop.Answerable gear.2) : l.restored.Answerable := by
  intro gear mem
  exact h gear (by simpa [Level.restored] using mem)

theorem Level.Answerable.restored {l : Level} (h : l.Answerable) : l.restored.Answerable :=
  restored_answerable fun gear mem => h gear (List.mem_append_right _ mem)

/-- Gears of a positive value can be answered. -/
theorem Level.answerable_of_positive {l : Level} (positive : ∀ gear ∈ l.layout, 0 < gear.2) :
    l.restored.Answerable :=
  restored_answerable fun gear mem => .inl (positive gear mem)

theorem Level.Answerable.collect {l : Level} (h : l.Answerable) (cell : Point) :
    (l.collect cell).2.Answerable ∧
      ((l.collect cell).1 ≠ 0 → RobotWorkshop.Answerable (l.collect cell).1) := by
  constructor
  · intro gear mem
    refine h gear ((List.mem_append.mp mem).elim (fun left => ?_) (List.mem_append_right _))
    exact List.mem_append_left _ (List.mem_of_mem_filter left)
  · intro nonzero
    show RobotWorkshop.Answerable ((l.gears.find? (·.1 = cell)).elim 0 (·.2))
    cases found : l.gears.find? (·.1 = cell) with
    | none => simp [Level.collect, Gears.take, found] at nonzero
    | some gear => exact h gear (List.mem_append_left _ (List.mem_of_find?_eq_some found))

namespace Session

variable {s t : Session}

/-- What a run finds on its way can be answered. -/
theorem executed_answerable (h : s.level.Answerable) (n : Nat) :
    (s.executed n).level.Answerable ∧
      ∃ found, (s.executed n).queue = s.queue ++ pickUps found ∧
        ∀ amount ∈ found, Answerable amount := by
  induction n generalizing s with
  | zero => exact ⟨h, [], (List.append_nil _).symm, by simp⟩
  | succ n ih =>
    cases next : s.holdings.program.sequence[s.interpreter.pc]? with
    | none =>
      rw [executed_of_past _ next]
      exact ⟨h, [], (List.append_nil _).symm, by simp⟩
    | some i =>
      let value := (s.level.collect (s.pose.execute i).position).1
      obtain ⟨left, answerable⟩ := h.collect (s.pose.execute i).position
      obtain ⟨left, found, queue, others⟩ := ih (s := s.stepped i) left
      have queued : (s.stepped i).queue = s.queue ++ pickUps (if value = 0 then [] else [value]) := by
        show s.queue ++ pickups value = _
        unfold pickups
        split <;> rfl
      rw [executed_succ _ next]
      refine ⟨left, (if value = 0 then [] else [value]) ++ found, ?_, ?_⟩
      · rw [queue, queued, pickUps_append, List.append_assoc]
      · intro amount mem
        rcases List.mem_append.mp mem with first | later
        · split at first
          · cases first
          · rename_i nonzero
            exact List.mem_singleton.mp first ▸ answerable nonzero
        · exact others amount later

theorem Runs.answerable {told : List Event} (runs : s.Runs told t) (h : s.level.Answerable) :
    t.level.Answerable ∧
      ∃ found, t.queue = s.queue ++ pickUps found ∧ ∀ amount ∈ found, Answerable amount := by
  cases runs with
  | @goesOn n clocks time fit => exact executed_answerable h n
  | @ends n outcome time fit through => exact executed_answerable h n

theorem Turn.answerable {c : Option Command} {told : List Event} (turn : s.Turn c told t)
    (h : s.level.Answerable) : t.level.Answerable ∧
      ∃ found, t.queue = s.queue ++ pickUps found ∧ ∀ amount ∈ found, Answerable amount := by
  have nothing : ∃ found, s.queue = s.queue ++ pickUps found ∧ ∀ amount ∈ found, Answerable amount :=
    ⟨[], (List.append_nil _).symm, by simp⟩
  cases turn with
  | ran running counted runs => exact runs.answerable h
  | stranded buying => exact ⟨h.restored, nothing⟩
  | began buying fresh runs => exact runs.answerable h.restored
  | _ => exact ⟨h, nothing⟩

/-- Pickups are all that a turn queues, and on such a level they can be answered. -/
theorem Turn.finds {c : Option Command} {told : List Event} (turn : s.Turn c told t) :
    ∃ found, t.queue = s.queue ++ pickUps found ∧
      (s.level.Answerable → t.level.Answerable ∧ ∀ amount ∈ found, Answerable amount) := by
  by_cases h : s.level.Answerable
  · obtain ⟨level, found, queue, each⟩ := turn.answerable h
    exact ⟨found, queue, fun _ => ⟨level, each⟩⟩
  · obtain ⟨found, queue⟩ := turn.queue
    exact ⟨found, queue, fun answerable => absurd answerable h⟩

theorem after_answerable {holdings : Holdings} {level : Level} (h : level.Answerable)
    (moves : List Move) : ((Session.new holdings level).after moves).level.Answerable := by
  rw [after_eq_through]
  exact history_induction (P := fun _ t => t.level.Answerable) h (fun _ _ _ _ _ kept => kept)
    (fun _ _ kept turn => (turn.answerable kept).1) _

theorem Steady.passed_answerable (steady : s.Steady) (h : s.level.Answerable) (dt : Int) :
    (s.passed dt).level.Answerable ∧ ∃ found, (s.passed dt).queue = s.queue ++ pickUps found ∧
      ∀ amount ∈ found, Answerable amount := by
  rcases steady with rest | ⟨ticks, bomb, run⟩
  · rw [rest.passed_eq]
    exact ⟨h, [], (List.append_nil _).symm, by simp⟩
  · obtain ⟨told, runs⟩ := run.runUntil_runs (s.runElapsed + dt)
    rw [run.passed_eq]
    exact runs.answerable h

theorem Brings.answerable {dt : Int} {found : List Int} {news : List Event}
    (brings : s.Brings dt found news) (steady : s.Steady) (h : s.level.Answerable) :
    ∀ amount ∈ found, Answerable amount := by
  have queue : (s.passed dt).queue = s.queue ++ pickUps found :=
    congrArg Session.queue (brings s.surroundings)
  obtain ⟨-, found', queue', answerable⟩ := steady.passed_answerable h dt
  rw [queue'] at queue
  exact pickUps_injective (List.append_cancel_left queue) ▸ answerable

end Session

/-! ## Gears that are credited -/

namespace Surroundings

/-- The surroundings after a pickup, which is refused unless it is positive. -/
def credit (g : UpgradeGraph) (c : Surroundings) (amount : Int) : Surroundings :=
  match c.wallet.deposit? amount with
  | .error _ => c
  | .ok wallet =>
    { c with
      wallet
      offers := g.offers wallet.balance
      outbox := c.outbox ++ [.walletChanged wallet.balance] }

def credited (g : UpgradeGraph) (c : Surroundings) (amounts : List Int) : Surroundings :=
  amounts.foldl (credit g) c

/-- The same with an empty outbox. -/
def silent (c : Surroundings) : Surroundings := { c with outbox := [] }

variable (g : UpgradeGraph) (c : Surroundings)

theorem credit_queue (amount : Int) (queue : List Submission) :
    credit g { c with queue } amount = { credit g c amount with queue } := by
  unfold credit
  dsimp only
  split <;> rfl

theorem credited_queue (amounts : List Int) : (c.credited g amounts).queue = c.queue := by
  induction amounts generalizing c with
  | nil => rfl
  | cons amount rest ih =>
    refine (ih (c.credit g amount)).trans ?_
    unfold credit
    split <;> rfl

theorem credit_outbox (amount : Int) :
    credit g c amount =
      { credit g c.silent amount with outbox := c.outbox ++ (credit g c.silent amount).outbox } := by
  unfold credit silent
  dsimp only
  split
  · rw [List.append_nil]
  · rfl

/-- What is told of credited gears does not depend on what is in the outbox. -/
theorem credited_outbox (amounts : List Int) :
    c.credited g amounts =
      { c.silent.credited g amounts with
        outbox := c.outbox ++ (c.silent.credited g amounts).outbox } := by
  induction amounts generalizing c with
  | nil =>
    show c = { c.silent with outbox := c.outbox ++ [] }
    rw [List.append_nil]
    rfl
  | cons amount rest ih =>
    have first : credited g c (amount :: rest) = (c.credit g amount).credited g rest := rfl
    have first' : credited g c.silent (amount :: rest) = (c.silent.credit g amount).credited g rest :=
      rfl
    have silent_eq : (c.credit g amount).silent = (c.silent.credit g amount).silent := by
      rw [credit_outbox g c amount]
      rfl
    rw [first, first', ih (c.credit g amount), ih (c.silent.credit g amount), silent_eq,
      credit_outbox g c amount, List.append_assoc]

theorem credited_append (amounts more : List Int) :
    c.credited g (amounts ++ more) = (c.credited g amounts).credited g more :=
  List.foldl_append

/-- Credited gears are told of by the wallet and nobody else. -/
theorem credited_ofWallet (amounts : List Int) (h : ∀ e ∈ c.outbox, e.ofWallet = true) :
    ∀ e ∈ (c.credited g amounts).outbox, e.ofWallet = true := by
  induction amounts generalizing c with
  | nil => exact h
  | cons amount rest ih =>
    refine ih (c.credit g amount) ?_
    unfold credit
    split
    · exact h
    · intro e mem
      rcases List.mem_append.mp mem with mem | mem
      · exact h e mem
      · rw [List.mem_singleton.mp mem]
        rfl

end Surroundings

namespace Session

theorem dispatch_pickUp (s : Session) {amount : Int} (answerable : Answerable amount) :
    ∃ answer, (s.dispatch (.command (.pickUp amount))).Gives answer
      (s.amid (s.surroundings.credit s.holdings.upgrades amount)) := by
  show ∃ answer, (s.settle (.pickUp amount) ((s.holdings.wallet.deposit? amount).map _)).Gives answer _
  unfold Surroundings.credit
  rw [show s.surroundings.wallet = s.holdings.wallet from rfl]
  unfold Wallet.deposit?
  split
  · rename_i refused
    have told : isWritable amount = true := answerable.resolve_left (by omega)
    have raised : Fault.ofRefusal (.deposit amount) = .refused (.deposit amount) :=
      Fault.ofRefusal_eq_refused_iff.mpr ⟨rfl, by simp [Refusal.wording, told]⟩
    rw [raised]
    exact ⟨false, rfl, rfl⟩
  · exact ⟨true, rfl, rfl⟩

theorem dispatch_pickUp_fails (s : Session) {amount : Int} (h : ¬Answerable amount) :
    s.dispatch (.command (.pickUp amount)) = .failed s .numberTooLong := by
  obtain ⟨refused, untold⟩ := not_or.mp h
  have raised : Fault.ofRefusal (.deposit amount) = .numberTooLong :=
    Fault.ofRefusal_eq_numberTooLong_iff.mpr (by simpa [Refusal.wording] using untold)
  show s.settle (.pickUp amount) ((s.holdings.wallet.deposit? amount).map _) = _
  unfold Wallet.deposit?
  rw [if_pos (by omega), raised]
  rfl

/-- Working off a queue of pickups credits them in order. -/
theorem runQueue_pickUps {s : Session} {amounts : List Int} (queue : s.queue = pickUps amounts)
    (answerable : ∀ amount ∈ amounts, Answerable amount) :
    s.runQueue.Gives ()
      (s.amid ({ s.surroundings with queue := [] }.credited s.holdings.upgrades amounts)) := by
  induction amounts generalizing s with
  | nil =>
    rw [runQueue_of_nil queue]
    refine ⟨rfl, ?_⟩
    have queue : s.queue = [] := queue
    show s = s.amid { s.surroundings with queue := [] }
    rw [← queue]
    rfl
  | cons amount rest ih =>
    let t := { s with queue := pickUps rest }
    let d := t.surroundings.credit s.holdings.upgrades amount
    have dispatched : ∃ answer, (t.dispatch (.command (.pickUp amount))).Gives answer (t.amid d) :=
      t.dispatch_pickUp (answerable amount List.mem_cons_self)
    obtain ⟨answer, dispatched⟩ := dispatched
    have kept : d.queue = pickUps rest :=
      Surroundings.credited_queue s.holdings.upgrades t.surroundings [amount]
    have others := ih (s := t.amid d) kept
      fun other mem => answerable other (List.mem_cons_of_mem _ mem)
    rw [surroundings_amid, ← Surroundings.credit_queue] at others
    exact runQueue_gives_of_cons queue dispatched others

/-- A pickup that cannot be answered stops it. -/
theorem runQueue_pickUps_fails {s : Session} {amounts : List Int} (queue : s.queue = pickUps amounts)
    (bad : ∃ amount ∈ amounts, ¬Answerable amount) : s.runQueue.result = .error .numberTooLong := by
  induction amounts generalizing s with
  | nil =>
    obtain ⟨amount, mem, -⟩ := bad
    cases mem
  | cons amount rest ih =>
    by_cases answerable : Answerable amount
    · obtain ⟨other, mem, unanswerable⟩ := bad
      have later : other ∈ rest := (List.mem_cons.mp mem).resolve_left fun same =>
        unanswerable (same ▸ answerable)
      obtain ⟨answer, dispatched⟩ := { s with queue := pickUps rest }.dispatch_pickUp answerable
      refine runQueue_fails_of_cons queue dispatched (ih ?_ ⟨other, later, unanswerable⟩)
      exact Surroundings.credited_queue s.holdings.upgrades _ [amount]
    · rw [runQueue_of_cons queue]
      dsimp only
      rw [dispatch_pickUp_fails _ answerable]
      rfl

/-! ## Sessions without queue and outbox -/

structure Clear (s : Session) : Prop where
  queue : s.queue = []
  outbox : s.outbox = []

/-- The session after so many more nanoseconds, with the gears that were found credited. -/
def settled (s : Session) (dt : Int) (found : List Int) : Session :=
  (s.passed dt).amid (s.surroundings.silent.credited s.holdings.upgrades found).silent

/-- What is told of credited gears. -/
def receipts (s : Session) (found : List Int) : List Event :=
  (s.surroundings.silent.credited s.holdings.upgrades found).outbox

section
variable {s : Session} {a b : Int} {found found' : List Int} {news news' : List Event}

theorem Steady.settled (h : s.Steady) (nonneg : 0 ≤ a) (found : List Int) :
    (s.settled a found).Steady :=
  (h.passed nonneg).congr rfl rfl rfl rfl rfl

theorem Clear.settled (h : s.Clear) (dt : Int) (found : List Int) : (s.settled dt found).Clear where
  queue := (Surroundings.credited_queue s.holdings.upgrades s.surroundings.silent found).trans h.queue
  outbox := rfl

theorem settled_zero (h : s.Steady) (clear : s.Clear) : s.settled 0 [] = s := by
  have silent : (s.surroundings.silent.credited s.holdings.upgrades []).silent = s.surroundings := by
    show { s.surroundings with outbox := [] } = s.surroundings
    rw [← clear.outbox]
    rfl
  unfold Session.settled
  rw [h.passed_zero, silent]
  rfl

theorem settled_upgrades (s : Session) (dt : Int) (found : List Int) :
    (s.settled dt found).holdings.upgrades = s.holdings.upgrades := by
  show (s.passed dt).holdings.upgrades = _
  rw [passed_holdings]

theorem Brings.of_settled (h : (s.settled a found).Brings b found' news') :
    (s.passed a).Brings b found' news' :=
  h.amid (s.passed a).surroundings

theorem settled_settled (h : s.Steady) (a_nonneg : 0 ≤ a) (b_nonneg : 0 ≤ b) (found : List Int)
    (brings : (s.passed a).Brings b found' news') :
    (s.settled a found).settled b found' = s.settled (a + b) (found ++ found') := by
  have both : s.surroundings.silent.credited s.holdings.upgrades (found ++ found') = _ :=
    (Surroundings.credited_append _ _ found found').trans (Surroundings.credited_outbox _ _ found')
  have passed : (s.settled a found).passed b = (s.passed (a + b)).amid _ :=
    (brings _).trans (by rw [h.passed_passed a_nonneg b_nonneg])
  show ((s.settled a found).passed b).amid (Surroundings.silent
    ((s.settled a found).surroundings.silent.credited
      (s.settled a found).holdings.upgrades found')) = _
  rw [passed, amid_amid, settled_upgrades]
  unfold Session.settled
  rw [both]
  rfl

theorem receipts_ofWallet (s : Session) (found : List Int) :
    ∀ e ∈ s.receipts found, e.ofWallet = true :=
  Surroundings.credited_ofWallet s.holdings.upgrades s.surroundings.silent found (by
    intro e mem
    cases mem)

end

/-! ## Frames in nanoseconds -/

/-- A frame of so many nanoseconds. -/
def frame (s : Session) (dt : Int) : Attempt Session (List Event) :=
  ((if s.running then s.advance dt else .done s ()).andThen fun s () => s.runQueue).andThen
    fun s () => .done s.drain.2 s.drain.1

/-- Frames one after the other, with all their events. -/
def frames (s : Session) : List Int → Attempt Session (List Event)
  | [] => .done s []
  | dt :: dts => (s.frame dt).andThen fun s events =>
    (s.frames dts).andThen fun s more => .done s (events ++ more)

theorem update_eq_frame (s : Session) {seconds : Float} {dt : Int}
    (nanos : Nanos.ofSeconds? seconds = .ok dt) : s.update seconds = s.frame dt := by
  unfold update runStage frame
  rw [nanos]

/-- The run stage of a frame. -/
theorem Steady.ran_gives {s : Session} (h : s.Steady) {dt : Int} (nonneg : 0 ≤ dt) :
    (if s.running then s.advance dt else .done s ()).Gives () (s.passed dt) := by
  rcases h with rest | ⟨ticks, bomb, run⟩
  · rw [if_neg (by simp [rest.buying]), rest.passed_eq]
    exact Attempt.gives_done _ _ _
  · rw [if_pos run.running, run.passed_eq]
    exact run.advance_gives nonneg

theorem Brings.queue {s : Session} {dt : Int} {found : List Int} {news : List Event}
    (brings : s.Brings dt found news) (clear : s.Clear) : (s.passed dt).queue = pickUps found := by
  have queued : (s.passed dt).queue = s.queue ++ pickUps found :=
    congrArg Session.queue (brings s.surroundings)
  rwa [clear.queue, List.nil_append] at queued

/-- One frame. -/
theorem Steady.frame_gives {s : Session} (h : s.Steady) (clear : s.Clear) {dt : Int}
    (nonneg : 0 ≤ dt) {found : List Int} {news : List Event} (brings : s.Brings dt found news)
    (answerable : ∀ amount ∈ found, Answerable amount) :
    (s.frame dt).Gives (news ++ s.receipts found) (s.settled dt found) := by
  have around : (s.passed dt).surroundings = s.surroundings.adding found news :=
    congrArg surroundings (brings s.surroundings)
  have told : { (s.passed dt).surroundings with queue := [] } =
      { s.surroundings with outbox := news } := by
    rw [around]
    simp only [Surroundings.adding, surroundings, clear.queue, clear.outbox, List.nil_append]
  have worked := runQueue_pickUps (brings.queue clear) answerable
  rw [told, passed_holdings, Surroundings.credited_outbox] at worked
  exact ((h.ran_gives nonneg).andThen worked).andThen ⟨rfl, rfl⟩

theorem Steady.frame_fails {s : Session} (h : s.Steady) (clear : s.Clear) {dt : Int}
    (nonneg : 0 ≤ dt) {found : List Int} {news : List Event} (brings : s.Brings dt found news)
    (bad : ∃ amount ∈ found, ¬Answerable amount) :
    (s.frame dt).result = .error .numberTooLong := by
  obtain ⟨ran, state⟩ := h.ran_gives nonneg
  have stopped := runQueue_pickUps_fails (brings.queue clear) bad
  rw [← state] at stopped
  obtain ⟨worked, -⟩ := Attempt.andThen_of_ok (fun s () => s.runQueue) ran
  exact (Attempt.andThen_of_error (fun s () => .done s.drain.2 s.drain.1) (worked.trans stopped)).1

end Session

end RobotWorkshop
