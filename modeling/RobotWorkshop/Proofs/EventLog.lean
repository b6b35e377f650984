import RobotWorkshop.Proofs.Ledger

/-!
What a session tells is a faithful log.  A listener who knows how a session began and hears all that
is told since knows what it has become

    (s.stream moves).foldl Snapshot.heard s.snapshot = (s.after moves).snapshot

its phase, the balance, the nodes that have been bought, the instructions that are available and how
the last run ended (`Session.stream_replays`): every change of these is told, and nothing else is.
-/

namespace RobotWorkshop

/-- What a listener knows of a session. -/
structure Snapshot where
  phase : Phase
  balance : Int
  purchased : Finset Int
  unlocked : Finset Instruction
  lastOutcome : Option Outcome

/-- What a listener knows who hears one more event. -/
def Snapshot.heard (known : Snapshot) : Event → Snapshot
  | .phaseChanged phase => { known with phase }
  | .walletChanged balance => { known with balance }
  | .upgradePurchased _ index => { known with purchased := insert index known.purchased }
  | .unlocksChanged _ i => { known with unlocked := insert i known.unlocked }
  | .runCompleted outcome _ => { known with lastOutcome := some outcome }
  | .tickExecuted _ _ => known

/-- The indices of the nodes that have been bought. -/
def UpgradeGraph.purchasedSet (g : UpgradeGraph) : Finset Int :=
  (g.purchased.map fun i : Nat => (i : Int)).toFinset

def Unlocks.toFinset (u : Unlocks) : Finset Instruction := u.instructions.toFinset

theorem UpgradeGraph.purchasedSet_markPurchased {g : UpgradeGraph} {i : Nat} {node : UpgradeNode}
    (h : g.nodes[i]? = some node) :
    (g.markPurchased i).purchasedSet = insert (i : Int) g.purchasedSet := by
  ext index
  simp only [purchasedSet, Finset.mem_insert, List.mem_toFinset, List.mem_map, mem_purchased,
    isPurchased_markPurchased h]
  constructor
  · rintro ⟨j, rfl | before, rfl⟩
    · exact .inl rfl
    · exact .inr ⟨j, before, rfl⟩
  · rintro (rfl | ⟨j, before, rfl⟩)
    · exact ⟨i, .inl rfl, rfl⟩
    · exact ⟨j, .inr before, rfl⟩

theorem Unlocks.toFinset_unlock (u : Unlocks) (i : Instruction) :
    (u.unlock i).toFinset = insert i u.toFinset := by
  ext j
  rw [Finset.mem_insert, toFinset, List.mem_toFinset, toFinset, List.mem_toFinset]
  exact mem_unlock

namespace Session

/-- What there is to know of a session. -/
def snapshot (s : Session) : Snapshot where
  phase := s.phases.phase
  balance := s.holdings.wallet.balance
  purchased := s.holdings.upgrades.purchasedSet
  unlocked := s.holdings.unlocks.toFinset
  lastOutcome := s.lastOutcome

/-! ## Turns -/

theorem heard_ticksFrom (known : Snapshot) (p : Program) (start count : Nat) :
    (p.ticksFrom start count).foldl Snapshot.heard known = known := by
  have of_tick := p.ofTick_ticksFrom start count
  generalize p.ticksFrom start count = ticks at of_tick
  induction ticks with
  | nil => rfl
  | cons e ticks ih =>
    have silent : known.heard e = known := by
      have tick := of_tick e List.mem_cons_self
      cases e with
      | tickExecuted i pc => rfl
      | _ => cases tick
    rw [List.foldl_cons, silent]
    exact ih fun e' mem => of_tick e' (List.mem_cons_of_mem _ mem)

theorem snapshot_executed (s : Session) (n : Nat) : (s.executed n).snapshot = s.snapshot := by
  rw [executed_rest]
  rfl

/-- What a run tells of itself. -/
theorem Runs.replays {s t : Session} {told : List Event} (runs : s.Runs told t) :
    told.foldl Snapshot.heard s.snapshot = t.snapshot := by
  cases runs with
  | @goesOn n clocks time fit =>
    rw [heard_ticksFrom]
    exact (s.snapshot_executed n).symm
  | @ends n outcome time fit through =>
    rw [List.foldl_append, heard_ticksFrom, ← s.snapshot_executed n]
    rfl

/-- What is told of an upgrade that is applied: the instruction that becomes available, if any. -/
theorem heard_applied (h : Holdings) (kind : UpgradeKind) (known : Snapshot)
    (same : known.unlocked = h.unlocks.toFinset) :
    ((h.apply kind).unlocked.toList.map fun i => Event.unlocksChanged i.category i).foldl
        Snapshot.heard known =
      { known with unlocked := (h.apply kind).holdings.unlocks.toFinset } := by
  obtain ⟨phase, balance, purchased, unlocked, lastOutcome⟩ := known
  obtain rfl : unlocked = h.unlocks.toFinset := same
  cases kind with
  | unlockConditional =>
    simp only [Holdings.apply]
    split
    · rfl
    · rw [Unlocks.toFinset_unlock]
      rfl
  | _ => rfl

/-- What is told of a purchase. -/
theorem bought_replays {s : Session} {index : Int} {sale : Sale} {i : Nat}
    (sold : s.holdings.upgrades.Sells s.holdings.wallet index sale i) :
    (s.receipt index sale).foldl Snapshot.heard s.snapshot = (s.bought index sale).snapshot := by
  let paid := { s.holdings with upgrades := sale.graph, wallet := sale.wallet }
  let applied := (paid.apply sale.node.kind).holdings
  have graph : applied.upgrades.purchasedSet = insert index s.snapshot.purchased := by
    rw [Holdings.apply_upgrades, show paid.upgrades = sale.graph from rfl, sold.graph,
      UpgradeGraph.purchasedSet_markPurchased sold.node, sold.index_eq]
    rfl
  have unlocked := heard_applied paid sale.node.kind
    (s.snapshot.heard (.upgradePurchased sale.node.kind index)) rfl
  calc (s.receipt index sale).foldl Snapshot.heard s.snapshot
      = Snapshot.heard { s.snapshot.heard (.upgradePurchased sale.node.kind index) with
          unlocked := applied.unlocks.toFinset } (.walletChanged applied.wallet.balance) := by
        rw [receipt, List.foldl_append]
        exact congrArg (Snapshot.heard · (.walletChanged applied.wallet.balance)) unlocked
    _ = { s.snapshot with
          balance := applied.wallet.balance
          purchased := applied.upgrades.purchasedSet
          unlocked := applied.unlocks.toFinset } := by
        rw [graph]
        rfl

/-- **Every turn** tells what it changes. -/
theorem Turn.replays {s t : Session} {c : Option Command} {told : List Event}
    (turn : s.Turn c told t) :
    told.foldl Snapshot.heard s.snapshot = t.snapshot := by
  cases turn with
  | ran running counted runs => exact runs.replays
  | began buying fresh runs => exact runs.replays
  | bought buying sold =>
    obtain ⟨i, sells⟩ := UpgradeGraph.buy?_sells sold
    exact bought_replays sells
  | _ => rfl

/-! ## The stream -/

theorem news_replays (holdings : Holdings) (level : Level) (hs : List Happening) :
    (((Session.new holdings level).trace hs).flatMap Moment.news).foldl Snapshot.heard
        (Session.new holdings level).snapshot =
      ((Session.new holdings level).through hs).snapshot := by
  refine history_induction (P := fun ms t => (ms.flatMap Moment.news).foldl Snapshot.heard
    (Session.new holdings level).snapshot = t.snapshot) rfl (fun _ _ _ _ _ known => known) ?_ hs
  intro ms m known turn
  rw [List.flatMap_append, List.foldl_append, known, List.flatMap_singleton]
  exact turn.replays

/-- **The event stream is a faithful log.**  Whatever a host does with a new session, all that is
told makes of what was known at first what is to be known now.  When the outbox is drained makes no
difference to what is told, nor to the session but for its outbox. -/
theorem stream_replays (holdings : Holdings) (level : Level) (moves : List Move) :
    let s := Session.new holdings level
    (s.emitted moves ++ (s.after moves).outbox).foldl Snapshot.heard s.snapshot =
        (s.after moves).snapshot ∧
      ∀ others : List Move, others.filter (!·.isDrain) = moves.filter (!·.isDrain) →
        s.emitted others ++ (s.after others).outbox = s.emitted moves ++ (s.after moves).outbox ∧
          (s.after others).drain.2 = (s.after moves).drain.2 := by
  intro s
  constructor
  · show (s.stream moves).foldl _ _ = _
    rw [stream_eq_news, after_eq_through]
    exact news_replays holdings level _
  · intro others same
    obtain ⟨told, left⟩ := s.stream_undrained moves
    obtain ⟨told', left'⟩ := s.stream_undrained others
    rw [same] at told' left'
    exact ⟨told'.symm.trans told, left'.symm.trans left⟩

end Session

end RobotWorkshop
