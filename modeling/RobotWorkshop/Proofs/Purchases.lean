import RobotWorkshop.Proofs.RootedTrees
import RobotWorkshop.Proofs.Turns

/-!
The shop, and what the player owns.  A purchase that goes through takes the price of a visible node
that was not bought yet, and marks that node (`UpgradeGraph.Sells`).  So the bought nodes become one
more

    (g.markPurchased i).owned ~ { node with purchased := true } :: g.owned  (owned_markPurchased)

and sums over them grow by one term.  What a bought upgrade does to the holdings of its owner is
said once (`Holdings.apply_holdings`).
-/

namespace RobotWorkshop

namespace UpgradeGraph

/-! ## Bought nodes -/

/-- The nodes that have been bought. -/
def owned (g : UpgradeGraph) : List UpgradeNode := g.nodes.filter (·.purchased)

/-- What the bought nodes cost. -/
def spent (g : UpgradeGraph) : Int := (g.owned.map (·.cost)).sum

/-- How many nodes of a kind have been bought. -/
def ownedOf (g : UpgradeGraph) (kind : UpgradeKind) : Nat := g.owned.countP (·.kind = kind)

/-- The tree with nothing bought. -/
def cleared (g : UpgradeGraph) : UpgradeGraph :=
  { g with nodes := g.nodes.map fun node => { node with purchased := false } }

variable {g : UpgradeGraph} {i : Nat} {node : UpgradeNode}

theorem isPurchased_of_getElem? (h : g.nodes[i]? = some node) : g.isPurchased i = node.purchased := by
  rw [isPurchased, h, Option.any_some]

theorem mem_purchased (i : Nat) : i ∈ g.purchased ↔ g.isPurchased i = true := by
  rw [purchased, List.mem_filter, List.mem_range]
  refine ⟨(·.2), fun bought => ⟨?_, bought⟩⟩
  by_contra outside
  rw [isPurchased, List.getElem?_eq_none (Nat.le_of_not_lt outside)] at bought
  cases bought

theorem isPurchased_markPurchased (h : g.nodes[i]? = some node) (j : Nat) :
    (g.markPurchased i).isPurchased j = true ↔ j = i ∨ g.isPurchased j = true := by
  rw [isPurchased, isPurchased, markPurchased, List.getElem?_modify]
  rcases eq_or_ne j i with rfl | other
  · simp [h]
  · simp [other, other.symm]

/-- Buying a node adds it to those that have been bought. -/
theorem owned_markPurchased (h : g.nodes[i]? = some node) (unbought : node.purchased = false) :
    (g.markPurchased i).owned.Perm ({ node with purchased := true } :: g.owned) := by
  obtain ⟨inside, found⟩ := List.getElem?_eq_some_iff.mp h
  have before : g.nodes = g.nodes.take i ++ node :: g.nodes.drop (i + 1) := by
    rw [← found, List.getElem_cons_drop, List.take_append_drop]
  have after : (g.markPurchased i).nodes =
      g.nodes.take i ++ { node with purchased := true } :: g.nodes.drop (i + 1) := by
    rw [markPurchased, List.modify_eq_take_cons_drop inside, found]
  rw [owned, owned, after]
  conv => rhs; rw [before]
  simp only [List.filter_append, List.filter_cons, unbought]
  exact List.perm_middle

theorem spent_markPurchased (h : g.nodes[i]? = some node) (unbought : node.purchased = false) :
    (g.markPurchased i).spent = g.spent + node.cost := by
  rw [spent, ((owned_markPurchased h unbought).map _).sum_eq, List.map_cons, List.sum_cons, spent,
    Int.add_comm]

theorem ownedOf_markPurchased (h : g.nodes[i]? = some node) (unbought : node.purchased = false)
    (kind : UpgradeKind) :
    (g.markPurchased i).ownedOf kind = g.ownedOf kind + if node.kind = kind then 1 else 0 := by
  rw [ownedOf, (owned_markPurchased h unbought).countP_eq, List.countP_cons, ownedOf]
  simp only [decide_eq_true_eq]

theorem owned_eq_nil (h : ∀ node ∈ g.nodes, node.purchased = false) : g.owned = [] :=
  List.filter_eq_nil_iff.mpr fun node mem => by simp [h node mem]

/-! ## Trees that differ in what is bought -/

theorem cleared_markPurchased (g : UpgradeGraph) (i : Nat) :
    (g.markPurchased i).cleared = g.cleared := by
  have same : ((g.nodes.modify i fun node => { node with purchased := true }).map
      fun node => { node with purchased := false }) =
        g.nodes.map fun node => { node with purchased := false } := by
    refine List.ext_getElem? fun j => ?_
    rw [List.getElem?_map, List.getElem?_modify, List.getElem?_map]
    cases g.nodes[j]? with
    | none => rfl
    | some node => by_cases here : i = j <;> simp [here]
  rw [cleared, cleared, markPurchased, same]

/-- A tree is determined by what it is with nothing bought and by what is bought. -/
theorem eq_of_cleared {g g' : UpgradeGraph} (cleared : g.cleared = g'.cleared)
    (purchased : g.purchased = g'.purchased) : g = g' := by
  obtain ⟨nodes, edges, roots⟩ := g
  obtain ⟨nodes', edges', roots'⟩ := g'
  obtain ⟨same, rfl, rfl⟩ := UpgradeGraph.mk.inj cleared
  suffices equal : nodes = nodes' by rw [equal]
  refine List.ext_getElem? fun j => ?_
  have flag := mem_purchased (g := ⟨nodes, edges, roots⟩) j
  rw [purchased, mem_purchased, isPurchased, isPurchased] at flag
  have rest := congrArg (·[j]?) same
  simp only [List.getElem?_map] at rest
  cases here : nodes[j]? with
  | none =>
    rw [here] at rest
    cases here' : nodes'[j]? with
    | none => rfl
    | some node' => rw [here'] at rest; cases rest
  | some node =>
    rw [here] at rest flag
    cases here' : nodes'[j]? with
    | none => rw [here'] at rest; cases rest
    | some node' =>
      rw [here'] at rest flag
      obtain ⟨kind, level, cost, bought⟩ := node
      obtain ⟨kind', level', cost', bought'⟩ := node'
      simp only [Option.map_some, Option.some.injEq, UpgradeNode.mk.injEq, and_true] at rest
      obtain ⟨rfl, rfl, rfl⟩ := rest
      simp only [Option.any_some] at flag
      rw [Bool.eq_iff_iff.mpr flag]

/-! ## Sales -/

/-- A node with this index is sold. -/
structure Sells (g : UpgradeGraph) (w : Wallet) (index : Int) (sale : Sale) (i : Nat) : Prop where
  index_eq : index = i
  node : g.nodes[i]? = some sale.node
  unbought : sale.node.purchased = false
  visible : g.isVisible i = true
  affordable : sale.node.cost ≤ w.balance
  graph : sale.graph = g.markPurchased i
  wallet : sale.wallet = ⟨w.balance - sale.node.cost⟩

theorem Sells.unpurchased {w : Wallet} {index : Int} {sale : Sale} (sold : g.Sells w index sale i) :
    g.isPurchased i = false :=
  (isPurchased_of_getElem? sold.node).trans sold.unbought

theorem Sells.purchased_iff {w : Wallet} {index : Int} {sale : Sale} (sold : g.Sells w index sale i)
    (j : Nat) : (g.markPurchased i).isPurchased j = true ↔ j = i ∨ g.isPurchased j = true :=
  isPurchased_markPurchased sold.node j

theorem charge?_eq_ok {w paid : Wallet} (h : g.charge? i node w = .ok paid) :
    node.purchased = false ∧ g.isVisible i = true ∧ node.cost ≤ w.balance ∧
      paid = ⟨w.balance - node.cost⟩ := by
  unfold charge? at h
  split at h
  · cases h
  · rename_i unbought
    split at h
    · cases h
    · rename_i seen
      unfold Wallet.spend? at h
      split at h
      · rename_i affordable
        exact ⟨by simpa using unbought, by simpa using seen, of_decide_eq_true affordable,
          (Except.ok.inj h).symm⟩
      · cases h

/-- **A purchase that goes through** sells a node. -/
theorem buy?_sells {w : Wallet} {index : Int} {sale : Sale} (h : g.buy? index w = .ok sale) :
    ∃ i, g.Sells w index sale i := by
  unfold buy? at h
  cases found : nodeIndex? g.size index with
  | none => rw [found] at h; cases h
  | some i =>
    rw [found] at h
    dsimp only at h
    cases here : g.nodes[i]? with
    | none => rw [here] at h; cases h
    | some node =>
      rw [here] at h
      dsimp only at h
      cases charged : g.charge? i node w with
      | error fault => rw [charged] at h; cases fault <;> cases h
      | ok paid =>
        rw [charged] at h
        obtain rfl := Except.ok.inj h
        obtain ⟨unbought, visible, affordable, rfl⟩ := charge?_eq_ok charged
        exact ⟨i, (nodeIndex?_eq_some.mp found).1, here, unbought, visible, affordable, rfl, rfl⟩

end UpgradeGraph

/-! ## Effects -/

/-- The set with the conditional instruction in it. -/
def Unlocks.withConditional (u : Unlocks) : Unlocks :=
  if .ifGapTurnLeft ∈ u then u else u.unlock .ifGapTurnLeft

/-- Each kind of upgrade works on one parameter, and once. -/
theorem Holdings.apply_holdings (h : Holdings) (kind : UpgradeKind) :
    (h.apply kind).holdings =
      { h with
        unlocks := Unlocks.withConditional^[if kind = .unlockConditional then 1 else 0] h.unlocks
        cpu :=
          { tickInterval := (· / 2.0)^[if kind = .speedBoost then 1 else 0] h.cpu.tickInterval
            multiplier := (· * 2.0)^[if kind = .multiplierBoost then 1 else 0] h.cpu.multiplier }
        program :=
          { h.program with
            capacity := (· * 2)^[if kind = .capacityBoost then 1 else 0] h.program.capacity } } := by
  cases kind with
  | unlockConditional =>
    show _ = { h with unlocks := h.unlocks.withConditional }
    simp only [apply, Unlocks.withConditional]
    split <;> rfl
  | _ => rfl

@[simp] theorem Holdings.apply_wallet (h : Holdings) (kind : UpgradeKind) :
    (h.apply kind).holdings.wallet = h.wallet := by
  rw [apply_holdings]

@[simp] theorem Holdings.apply_upgrades (h : Holdings) (kind : UpgradeKind) :
    (h.apply kind).holdings.upgrades = h.upgrades := by
  rw [apply_holdings]

end RobotWorkshop
