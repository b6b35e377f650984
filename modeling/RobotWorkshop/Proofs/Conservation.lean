import RobotWorkshop.Proofs.Harvest
import RobotWorkshop.Proofs.Ledger

/-!
Conservation of gears, from the level to the wallet.  A run finds each gear on its way once and
queues it (`Session.reaping`).  The queue loses nothing and keeps the order

    all that was queued = all that was taken from the queue ++ the queue       (Session.queue_kept)

a frame that is not stopped by a fault leaves it empty (`Session.update_queue`), and a pickup that
is taken from it is credited (`Session.Moment.credited`).  The wallet holds what was credited less
what was spent (`Session.accounted`).
-/

namespace RobotWorkshop

/-- The gears that a command is to bring in. -/
def Submission.income : Submission → Int
  | .command c => c.income
  | .unknown _ => 0

namespace Session

/-! ## The queue -/

namespace Moment

variable {m : Moment}

/-- What the host submits. -/
def submitted (m : Moment) : List Submission :=
  match m.happening with
  | .submit item => [item]
  | _ => []

/-- All that is added to the queue. -/
def queued (m : Moment) : List Submission := m.submitted ++ m.collected

/-- The command that is taken from the queue. -/
def taken (m : Moment) : Option Submission :=
  match m.happening with
  | .take => m.before.queue.head?
  | _ => none

theorem prepared_queue (m : Moment) :
    m.before.queue ++ m.submitted = m.taken.toList ++ m.prepared.queue := by
  obtain ⟨before, happening⟩ := m
  cases happening with
  | submit item => rfl
  | take =>
    show before.queue ++ [] = before.queue.head?.toList ++ before.queue.tail
    cases before.queue <;> simp
  | _ => exact List.append_nil _

theorem after_queue (turn : m.prepared.Turn m.carriedOut m.news m.after) :
    m.after.queue = m.prepared.queue ++ m.collected := by
  obtain ⟨found, queue⟩ := turn.queue
  rw [collected, queue, List.drop_left]

/-- A pickup that is taken from the queue is credited. -/
theorem credited {amount : Int} (positive : 0 < amount)
    (taken : m.taken = some (.command (.pickUp amount))) : m.carriedOut = some (.pickUp amount) := by
  obtain ⟨before, happening⟩ := m
  cases happening with
  | take =>
    have head : before.queue.head? = some (.command (.pickUp amount)) := taken
    obtain ⟨rest, queue⟩ : ∃ rest, before.queue = .command (.pickUp amount) :: rest :=
      ⟨_, List.eq_cons_of_mem_head? head⟩
    have accepted : before.holdings.wallet.deposit? amount =
        .ok ⟨before.holdings.wallet.balance + amount⟩ := if_neg (by omega)
    have done : ({ before with queue := rest }.dispatch (.command (.pickUp amount))).result =
        .ok true := by
      simp only [dispatch, accepted]
      rfl
    have given : Moment.given ⟨before, .take⟩ = some (.command (.pickUp amount)) := head
    rw [carriedOut, given, attempt, befall_take queue, Option.bind_some, done]
    rfl
  | _ => cases taken

end Moment

/-- **First in, first out.**  What is added to the queue is taken from it in the same order, or
still there. -/
theorem queue_kept (s : Session) (hs : List Happening)
    (turns : ∀ m ∈ s.trace hs, m.prepared.Turn m.carriedOut m.news m.after) :
    s.queue ++ (s.trace hs).flatMap Moment.queued =
      (s.trace hs).filterMap Moment.taken ++ (s.through hs).queue := by
  induction hs generalizing s with
  | nil => exact List.append_nil _
  | cons h hs ih =>
    let m : Moment := ⟨s, h⟩
    let rest := m.after.trace hs
    have first : s.queue ++ m.queued = m.taken.toList ++ m.after.queue := by
      rw [Moment.after_queue (turns m List.mem_cons_self), ← List.append_assoc, ← m.prepared_queue,
        List.append_assoc]
      rfl
    have others := ih m.after fun m' mem => turns m' (List.mem_cons_of_mem _ mem)
    have joined : ([m] ++ rest).filterMap Moment.taken = _ := List.filterMap_append
    calc s.queue ++ (m.queued ++ rest.flatMap Moment.queued)
        = m.taken.toList ++ (m.after.queue ++ rest.flatMap Moment.queued) := by
          rw [← List.append_assoc, first, List.append_assoc]
      _ = m.taken.toList ++ (rest.filterMap Moment.taken ++ (m.after.through hs).queue) := by
          rw [others]
      _ = ([m] ++ rest).filterMap Moment.taken ++ (m.after.through hs).queue := by
          rw [joined, List.append_assoc]
          rfl

theorem runQueue_queue {s : Session} (h : s.runQueue.result = .ok ()) :
    s.runQueue.state.queue = [] := by
  induction s using queue_induction with
  | nil s queue => rwa [runQueue_of_nil queue]
  | cons s item rest queue ih =>
    rw [runQueue_of_cons queue] at h ⊢
    dsimp only at h ⊢
    cases result : ({ s with queue := rest }.dispatch item).result with
    | error fault => rw [result] at h; cases h
    | ok answer =>
      rw [result] at h
      exact ih h

/-- A frame that is not stopped by a fault works the queue off. -/
theorem update_queue {s : Session} {seconds : Float} {told : List Event}
    (h : (s.update seconds).result = .ok told) : (s.update seconds).state.queue = [] := by
  cases ran : (s.runStage seconds).result with
  | error fault =>
    rw [(update_of_stage_error ran).1] at h
    cases h
  | ok answer =>
    cases worked : (s.runStage seconds).state.runQueue.result with
    | error fault =>
      rw [(update_of_queue_error ran worked).1] at h
      cases h
    | ok answer =>
      rw [(update_of_ok ran worked).state]
      exact runQueue_queue worked

/-! ## The wallet -/

/-- What is in the wallet after some moments, and where it went. -/
structure Balanced (holdings : Holdings) (ms : List Moment) (now : Holdings) : Prop where
  nonneg : 0 ≤ now.wallet.balance
  balance_eq : now.wallet.balance = holdings.wallet.balance + income ms - now.upgrades.spent
  /-- The nodes that were bought are those that are marked. -/
  bought : ∀ index, index ∈ purchases ms ↔ ∃ i : Nat, index = i ∧ now.upgrades.isPurchased i = true
  once : (purchases ms).Nodup
  paid : ∀ m ∈ ms, ∀ index, m.purchase = some index → ∃ i node, index = (i : Nat) ∧
    m.before.holdings.upgrades.nodes[i]? = some node ∧
    m.after.holdings.wallet.balance = m.before.holdings.wallet.balance - node.cost

theorem Moment.paid {m : Moment} (turn : m.prepared.Turn m.carriedOut m.news m.after) {index : Int}
    (bought : m.purchase = some index) :
    ∃ i node, index = (i : Nat) ∧ m.before.holdings.upgrades.nodes[i]? = some node ∧
      m.after.holdings.wallet.balance = m.before.holdings.wallet.balance - node.cost := by
  have traded := turn.traded
  rw [Moment.purchase] at bought
  rw [Moment.prepared, prepared_holdings] at traded
  generalize m.carriedOut = c at bought traded
  generalize m.after.holdings = h at traded ⊢
  cases traded with
  | edited nothing_in nothing_bought => rw [nothing_bought] at bought; cases bought
  | paid positive => cases bought
  | @bought other sale i sold =>
    obtain rfl : other = index := Option.some.inj bought
    refine ⟨i, sale.node, sold.index_eq, sold.node, ?_⟩
    rw [Holdings.apply_wallet, sold.wallet]

theorem balanced {holdings : Holdings} (solvent : 0 ≤ holdings.wallet.balance)
    (unbought : ∀ node ∈ holdings.upgrades.nodes, node.purchased = false) (level : Level)
    (hs : List Happening) :
    Balanced holdings ((Session.new holdings level).trace hs)
      ((Session.new holdings level).through hs).holdings := by
  have account := accounted holdings level hs
  have unmarked : ∀ i, ¬holdings.upgrades.isPurchased i = true := by
    intro i marked
    obtain ⟨node, found, bought⟩ := (Option.any_eq_true _ _).mp marked
    exact absurd bought (by simp [unbought node (List.mem_of_getElem? found)])
  have nothing_spent : holdings.upgrades.spent = 0 := by
    rw [UpgradeGraph.spent, UpgradeGraph.owned_eq_nil unbought]
    rfl
  constructor
  · exact account.solvent solvent
  · have balance := account.balance_eq
    omega
  · intro index
    constructor
    · intro mem
      obtain ⟨i, rfl, -⟩ := account.fresh index mem
      exact ⟨i, rfl, (account.bought i).mpr (.inr mem)⟩
    · rintro ⟨i, rfl, marked⟩
      exact ((account.bought i).mp marked).resolve_left (unmarked i)
  · exact account.once
  · exact fun m mem index bought => Moment.paid (trace_turn holdings level hs m mem) bought

/-! ## Runs -/

/-- The cells that a run leads to. -/
def cells (start : Pose) (run : List Moment) : List Point :=
  start.path (run.flatMap Moment.instructions)

/-- What a run has collected and submitted so far. -/
structure Harvested (start : Pose) (layout : Gears) (run : List Moment) (now : Session) : Prop where
  pose_eq : now.pose = (run.flatMap Moment.instructions).foldl Pose.execute start
  /-- For each gear on the cells there is one pickup of its value, and there are no others. -/
  submitted : (run.flatMap Moment.collected).Perm
    ((layout.on (cells start run)).map fun gear => .command (.pickUp gear.2))
  income_eq : ((run.flatMap Moment.collected).map Submission.income).sum =
    ∑ cell ∈ (cells start run).toFinset, (layout.take cell).1
  remaining : now.level.gears = layout.off (cells start run)
  partition : (layout.on (cells start run) ++ now.level.gears).Perm layout

theorem harvested (holdings : Holdings) (level : Level) (full : level.gears = level.layout)
    (distinct : level.layout.Distinct) (positive : ∀ gear ∈ level.layout, 0 < gear.2)
    (hs : List Happening) :
    Harvested level.start level.layout (lastRun ((Session.new holdings level).trace hs))
      ((Session.new holdings level).through hs) := by
  obtain ⟨found, collected, reaping⟩ := reaping holdings full distinct positive hs
  have same := reaping.reaped.found
  constructor
  · exact reaping.pose_eq
  · rw [collected]
    have queued := same.map fun amount => Submission.command (.pickUp amount)
    rwa [List.map_map] at queued
  · have worth : (pickUps found).map Submission.income = found := by
      simp [pickUps, Submission.income, Command.income, Function.comp_def]
    rw [collected, worth, same.sum_eq]
    exact Gears.sum_on distinct _
  · exact reaping.reaped.left
  · rw [reaping.reaped.left]
    exact level.layout.on_append_off _

/-- What has been queued has been credited in order, or is still queued. -/
structure Delivered (ms : List Moment) (now : Session) : Prop where
  in_order : ms.flatMap Moment.queued = ms.filterMap Moment.taken ++ now.queue
  credited : ∀ m ∈ ms, ∀ amount, 0 < amount → m.taken = some (.command (.pickUp amount)) →
    m.carriedOut = some (.pickUp amount)

theorem delivered (holdings : Holdings) (level : Level) (hs : List Happening) :
    Delivered ((Session.new holdings level).trace hs) ((Session.new holdings level).through hs) where
  in_order := queue_kept (Session.new holdings level) hs (trace_turn holdings level hs)
  credited _ _ _ positive taken := Moment.credited positive taken

/-- **Conservation of gears.**  At every point of a history of a new session that had nothing bought
and no debts, the wallet holds what it held at first and all that was credited, less the price of
each bought node; if all gears have a positive value, then the current or last run has submitted the
gears on its cells, once each, and the other gears are left; and what was submitted is credited in
order, by the end of the next frame that no fault stops. -/
theorem gears_conserved {holdings : Holdings} (solvent : 0 ≤ holdings.wallet.balance)
    (unbought : ∀ node ∈ holdings.upgrades.nodes, node.purchased = false)
    (spawn facing : Point) (entries : List (Point × Int)) (moves : List Move) :
    let layout := Gears.ofList entries
    let s := Session.new holdings { spawn, facing, layout }
    (∀ hs, hs <+: s.happenings moves →
      Balanced holdings (s.trace hs) (s.through hs).holdings ∧
      ((∀ gear ∈ layout, 0 < gear.2) →
        Harvested ⟨spawn, facing⟩ layout (lastRun (s.trace hs)) (s.through hs)) ∧
      Delivered (s.trace hs) (s.through hs)) ∧
    s.through (s.happenings moves) = s.after moves ∧
    ∀ seconds told, ((s.after moves).update seconds).result = .ok told →
      let moments := s.trace (s.happenings (moves ++ [.update seconds]))
      moments.flatMap Moment.queued = moments.filterMap Moment.taken := by
  intro layout s
  refine ⟨fun hs _ => ⟨?_, fun positive => ?_, ?_⟩, ?_, ?_⟩
  · exact balanced solvent unbought _ hs
  · exact harvested holdings { spawn, facing, layout } rfl (Gears.ofList_distinct entries) positive hs
  · exact delivered holdings _ hs
  · exact (s.after_eq_through moves).symm
  · intro seconds told ended moments
    have in_order := (delivered holdings { spawn, facing, layout }
      (s.happenings (moves ++ [.update seconds]))).in_order
    have empty : (s.after (moves ++ [.update seconds])).queue = [] := by
      rw [after_append]
      exact update_queue ended
    rwa [← after_eq_through, empty, List.append_nil] at in_order

/-- Two of three gears are collected, and most of them is spent. -/
theorem gears_conserved_two_steps :
    let holdings : Holdings := { Holdings.twoSteps with
      upgrades :=
        { nodes := [{ kind := .speedBoost, level := 1, cost := 6 }], edges := [], roots := [0] } }
    let entries : List (Point × Int) := [(⟨1, 0⟩, 5), (⟨2, 0⟩, 3), (⟨9, 9⟩, 7)]
    let s := Session.new holdings
      { spawn := ⟨0, 0⟩, facing := ⟨1, 0⟩, layout := Gears.ofList entries }
    let moves : List Move := [.dispatch (.command .startRun), .update 0.15, .update 1.0,
      .dispatch (.command (.purchase 0))]
    0 ≤ holdings.wallet.balance ∧ (∀ node ∈ holdings.upgrades.nodes, node.purchased = false) ∧
      (∀ gear ∈ Gears.ofList entries, 0 < gear.2) ∧
      cells ⟨⟨0, 0⟩, ⟨1, 0⟩⟩ (lastRun (s.trace (s.happenings moves))) = [⟨1, 0⟩, ⟨2, 0⟩] ∧
      (s.after moves).level.gears = [(⟨9, 9⟩, 7)] ∧
      (s.after moves).holdings.wallet.balance = 0 + 8 - 6 := by
  intro holdings entries s moves
  have solvent : 0 ≤ holdings.wallet.balance := by decide
  have unbought : ∀ node ∈ holdings.upgrades.nodes, node.purchased = false := by decide
  have positive : ∀ gear ∈ Gears.ofList entries, 0 < gear.2 := by decide
  have visited : cells ⟨⟨0, 0⟩, ⟨1, 0⟩⟩ (lastRun (s.trace (s.happenings moves))) =
      [⟨1, 0⟩, ⟨2, 0⟩] := by
    decide +kernel
  have came_in : income (s.trace (s.happenings moves)) = 8 := by decide +kernel
  have spent : (s.after moves).holdings.upgrades.spent = 6 := by decide +kernel
  obtain ⟨points, same, -⟩ := gears_conserved solvent unbought ⟨0, 0⟩ ⟨1, 0⟩ entries moves
  obtain ⟨balanced, harvested, -⟩ := points _ (List.prefix_refl _)
  have left := (harvested positive).remaining
  have balance := balanced.balance_eq
  rw [same] at left balance
  refine ⟨solvent, unbought, positive, visited, ?_, ?_⟩
  · rw [left, visited]
    decide
  · rw [balance, came_in, spent]
    rfl

end Session

end RobotWorkshop
