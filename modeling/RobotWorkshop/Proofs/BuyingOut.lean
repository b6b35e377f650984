import RobotWorkshop.Proofs.Acyclicity
import RobotWorkshop.Proofs.Refusals
import RobotWorkshop.Proofs.UnlockTree

/-!
Buying a tree out.  Among the nodes that have not been bought there is a first one, for the edges do
not run in a circle; everything before it has been bought, so it is on offer
(`UpgradeGraph.revealed_ne_nil`).  Each sale moves one price from the wallet to the bought nodes, so
all the way

    balance + spent = first balance,   number of bought nodes = number of picks          (Shop.Paid)

and a wallet that starts with the price of the whole tree can always pay for what is left.
-/

namespace RobotWorkshop

namespace UpgradeGraph

variable {g : UpgradeGraph} {i : Nat}

/-! ## Progress -/

/-- While a node has not been bought, some node is on offer. -/
theorem revealed_ne_nil (ordered : WellFounded (Leads g.edges)) (inside : i < g.size)
    (unbought : g.isPurchased i = false) : g.revealed ≠ [] := by
  -- a node that stands behind an unbought one is no nearer to the offer than that one
  induction i using ordered.induction with
  | _ i before =>
    by_cases missing : ∃ p < g.size, (p, i) ∈ g.edges ∧ g.isPurchased p = false
    · obtain ⟨p, p_lt, edge, unbought_p⟩ := missing
      exact before p edge p_lt unbought_p
    · push Not at missing
      have seen : g.isVisible i = true := by
        rw [isVisible_iff]
        exact .inr fun p p_lt edge => by simpa using missing p p_lt edge
      exact List.ne_nil_of_mem ((g.mem_revealed i).mpr ⟨inside, seen, unbought⟩)

/-- So nothing is on offer just if every node has been bought. -/
theorem revealed_eq_nil_iff (ordered : WellFounded (Leads g.edges)) :
    g.revealed = [] ↔ ∀ i < g.size, g.isPurchased i = true := by
  constructor
  · intro nothing i inside
    by_contra left
    exact revealed_ne_nil ordered inside (by simpa using left) nothing
  · intro all
    refine List.eq_nil_iff_forall_not_mem.mpr fun i mem => ?_
    obtain ⟨inside, -, unbought⟩ := (g.mem_revealed i).mp mem
    rw [all i inside] at unbought
    cases unbought

/-- One tree follows from another by a purchase, from whatever wallet. -/
def Trades (g g' : UpgradeGraph) : Prop :=
  ∃ index wallet sale, g.buy? index wallet = .ok sale ∧ sale.graph = g'

theorem Trades.later {g' : UpgradeGraph} (traded : Relation.ReflTransGen Trades g g') :
    Later g g' := by
  induction traded with
  | refl => exact .refl g
  | tail _ trade later =>
    obtain ⟨index, wallet, sale, bought, rfl⟩ := trade
    obtain ⟨i, sold⟩ := buy?_sells bought
    rw [sold.graph]
    exact later.trans sold.later

/-! ## Counts and costs -/

/-- What all nodes cost together. -/
def price (g : UpgradeGraph) : Int := (g.nodes.map (·.cost)).sum

theorem costs_markPurchased (g : UpgradeGraph) (i : Nat) :
    (g.markPurchased i).nodes.map (·.cost) = g.nodes.map (·.cost) := by
  refine List.ext_getElem? fun j => ?_
  rw [markPurchased, List.getElem?_map, List.getElem?_modify, List.getElem?_map]
  cases g.nodes[j]? with
  | none => rfl
  | some node => by_cases here : i = j <;> simp [here]

/-- Every node has been bought just if as many have been bought as there are. -/
theorem length_owned_eq_size : g.owned.length = g.size ↔ ∀ i < g.size, g.isPurchased i = true := by
  rw [owned, size, List.length_filter_eq_length_iff]
  constructor
  · intro all i inside
    rw [isPurchased_of_getElem? (List.getElem?_eq_getElem inside)]
    exact all _ (List.getElem_mem inside)
  · intro all node mem
    obtain ⟨i, inside, rfl⟩ := List.mem_iff_getElem.mp mem
    rw [← isPurchased_of_getElem? (List.getElem?_eq_getElem inside)]
    exact all i inside

theorem spent_eq_price (all : g.owned.length = g.size) : g.spent = g.price := by
  have same : g.owned = g.nodes := List.filter_sublist.eq_of_length all
  rw [spent, same, price]

/-- With prices that are not negative, an unbought node costs no more than is left to be spent. -/
theorem cost_le_of_unbought {node : UpgradeNode} (fair : ∀ node ∈ g.nodes, 0 ≤ node.cost)
    (mem : node ∈ g.nodes) (unbought : node.purchased = false) : node.cost ≤ g.price - g.spent := by
  let left := g.nodes.filter fun node => !node.purchased
  have split_price : g.price = g.spent + (left.map (·.cost)).sum := by
    have halves : (g.owned ++ left).Perm g.nodes := List.filter_append_perm _ _
    rw [price, ← (halves.map (·.cost)).sum_eq, List.map_append, List.sum_append, spent]
  have fair_left : ∀ c ∈ left.map (·.cost), 0 ≤ c := by
    intro c cost
    obtain ⟨other, mem, rfl⟩ := List.mem_map.mp cost
    exact fair other (List.mem_of_mem_filter mem)
  have here : node.cost ∈ left.map (·.cost) :=
    List.mem_map_of_mem (List.mem_filter.mpr ⟨mem, by simp [unbought]⟩)
  have := List.single_le_sum fair_left _ here
  omega

end UpgradeGraph

namespace Shop

variable {first shop : Shop}

/-! ## Picking what is on offer -/

/-- Each node is on offer when its turn comes, and is bought then. -/
def Picks (shop : Shop) : List Nat → Prop
  | [] => True
  | i :: rest => i ∈ shop.graph.revealed ∧ (shop.deal (.purchase i)).Picks rest

/-- The shop when the nodes have been bought one after the other. -/
def picked (shop : Shop) (picks : List Nat) : Shop :=
  shop.after (picks.map fun i : Nat => .purchase i)

/-- The accounts after some purchases. -/
structure Paid (first shop : Shop) (purchases : Nat) : Prop where
  later : first.graph.Later shop.graph
  costs : shop.graph.nodes.map (·.cost) = first.graph.nodes.map (·.cost)
  count : shop.graph.owned.length = purchases
  account : shop.wallet.balance + shop.graph.spent = first.wallet.balance

theorem Paid.price {n : Nat} (paid : first.Paid shop n) : shop.graph.price = first.graph.price :=
  congrArg List.sum paid.costs

/-- **Step lemma.**  What is on offer can be bought. -/
theorem Paid.purchase {n i : Nat} (paid : first.Paid shop n)
    (fair : ∀ node ∈ first.graph.nodes, 0 ≤ node.cost)
    (enough : first.graph.price ≤ first.wallet.balance) (offered : i ∈ shop.graph.revealed) :
    ∃ sale, shop.graph.buy? i shop.wallet = .ok sale ∧
      first.Paid (shop.deal (.purchase i)) (n + 1) := by
  obtain ⟨inside, seen, unbought⟩ := (shop.graph.mem_revealed i).mp offered
  have inside : i < shop.graph.nodes.length := inside
  have here : shop.graph.nodes[i]? = some shop.graph.nodes[i] := List.getElem?_eq_getElem inside
  rw [UpgradeGraph.isPurchased_of_getElem? here] at unbought
  have fair_now : ∀ node ∈ shop.graph.nodes, 0 ≤ node.cost := by
    intro node mem
    have cost : node.cost ∈ first.graph.nodes.map (·.cost) :=
      paid.costs ▸ List.mem_map_of_mem mem
    obtain ⟨node', mem', same⟩ := List.mem_map.mp cost
    exact same ▸ fair node' mem'
  have left := UpgradeGraph.cost_le_of_unbought fair_now (List.getElem_mem inside) unbought
  rw [paid.price] at left
  have account := paid.account
  obtain ⟨sale, bought⟩ := (shop.graph.buy?_ok_iff i shop.wallet).mpr
    ⟨i, rfl, _, here, unbought, (shop.graph.isVisible_iff i).mp seen, by omega⟩
  obtain ⟨j, sold⟩ := UpgradeGraph.buy?_sells bought
  obtain rfl := Int.ofNat.inj sold.index_eq
  refine ⟨sale, bought, ?_⟩
  simp only [deal, bought, sold.graph, sold.wallet]
  refine ⟨paid.later.trans sold.later, ?_, ?_, ?_⟩
  · rw [UpgradeGraph.costs_markPurchased, paid.costs]
  · rw [(UpgradeGraph.owned_markPurchased sold.node sold.unbought).length_eq, List.length_cons,
      paid.count]
  · show shop.wallet.balance - sale.node.cost + (shop.graph.markPurchased i).spent = _
    rw [UpgradeGraph.spent_markPurchased sold.node sold.unbought]
    omega

/-- **Run lemma.** -/
theorem Picks.paid {n : Nat} {picks : List Nat} (picks_made : shop.Picks picks)
    (fair : ∀ node ∈ first.graph.nodes, 0 ≤ node.cost)
    (enough : first.graph.price ≤ first.wallet.balance) (paid : first.Paid shop n) :
    first.Paid (shop.picked picks) (n + picks.length) := by
  induction picks generalizing shop n with
  | nil => exact paid
  | cons i rest ih =>
    obtain ⟨offered, others⟩ := picks_made
    obtain ⟨sale, -, paid'⟩ := paid.purchase fair enough offered
    rw [List.length_cons, Nat.add_comm rest.length, ← Nat.add_assoc]
    exact ih others paid'

/-- **The unlock tree never gets stuck.**  While a node of a tree has not been bought, some node is
on offer.  So with a wallet that holds the price of the whole tree one can pick whatever is on
offer: each purchase goes through, there is nothing left to pick just after as many picks as there
are nodes, and then every node has been bought and the price of the tree has been paid. -/
theorem buys_out {nodes : List UpgradeNode} {edges : List (Int × Int)} {roots : List Int}
    {g : UpgradeGraph} (made : UpgradeGraph.new? nodes edges roots = .ok g)
    (unbought : ∀ node ∈ nodes, node.purchased = false) :
    (∀ g', Relation.ReflTransGen UpgradeGraph.Trades g g' →
      (∃ i < nodes.length, g'.isPurchased i = false) → g'.revealed ≠ []) ∧
    ∀ wallet : Wallet, (∀ node ∈ nodes, 0 ≤ node.cost) →
      (nodes.map (·.cost)).sum ≤ wallet.balance →
      ∀ picks, Shop.Picks ⟨g, wallet⟩ picks →
        let shop := Shop.picked ⟨g, wallet⟩ picks
        (∀ i ∈ shop.graph.revealed, ∃ sale, shop.graph.buy? i shop.wallet = .ok sale) ∧
        picks.length ≤ nodes.length ∧
        (shop.graph.revealed = [] ↔ picks.length = nodes.length) ∧
        (picks.length = nodes.length →
          (∀ i < nodes.length, shop.graph.isPurchased i = true) ∧
          shop.wallet.balance = wallet.balance - (nodes.map (·.cost)).sum) := by
  have ordered := UpgradeGraph.wellFounded_of_new? made
  obtain ⟨rfl, -, -, -⟩ := UpgradeGraph.new?_eq_ok made
  constructor
  · rintro g' traded ⟨i, inside, unbought_i⟩
    have later := UpgradeGraph.Trades.later traded
    exact UpgradeGraph.revealed_ne_nil (later.edges ▸ ordered) (later.size ▸ inside) unbought_i
  · intro wallet fair enough picks picks_made shop
    have nothing := UpgradeGraph.owned_eq_nil unbought
    have start : Paid ⟨g, wallet⟩ ⟨g, wallet⟩ 0 :=
      ⟨.refl g, rfl, by simp [nothing], by simp [UpgradeGraph.spent, nothing]⟩
    have paid : Paid ⟨g, wallet⟩ shop picks.length :=
      Nat.zero_add picks.length ▸ picks_made.paid fair enough start
    have same_size : shop.graph.size = g.nodes.length := paid.later.size
    have all_iff := UpgradeGraph.length_owned_eq_size (g := shop.graph)
    rw [paid.count, same_size] at all_iff
    refine ⟨?_, ?_, ?_, ?_⟩
    · intro i offered
      obtain ⟨sale, bought, -⟩ := paid.purchase fair enough offered
      exact ⟨sale, bought⟩
    · rw [← paid.count, ← same_size]
      exact List.length_filter_le _ _
    · rw [UpgradeGraph.revealed_eq_nil_iff (paid.later.edges ▸ ordered), all_iff, same_size]
    · intro complete
      have spent : shop.graph.spent = g.price :=
        (UpgradeGraph.spent_eq_price (by rw [paid.count, same_size, complete])).trans paid.price
      have account : shop.wallet.balance + shop.graph.spent = wallet.balance := paid.account
      rw [spent] at account
      exact ⟨all_iff.mp complete, eq_sub_of_add_eq account⟩

/-- A tree of two roots and one node after both, with a wallet that holds just its price. -/
theorem buys_out_two_roots :
    let node (cost : Int) : UpgradeNode := { kind := .speedBoost, level := 1, cost }
    let nodes := [node 2, node 0, node 7]
    ∃ g, UpgradeGraph.new? nodes [(0, 2), (1, 2)] [0, 1] = .ok g ∧
      (∀ node ∈ nodes, node.purchased = false) ∧ (∀ node ∈ nodes, 0 ≤ node.cost) ∧
      (nodes.map (·.cost)).sum ≤ 9 ∧ Shop.Picks ⟨g, ⟨9⟩⟩ [1, 0, 2] ∧
      (Shop.picked ⟨g, ⟨9⟩⟩ [1, 0, 2]).graph.revealed = [] ∧
      (Shop.picked ⟨g, ⟨9⟩⟩ [1, 0, 2]).wallet.balance = 0 ∧
      ∃ i, i ∈ g.revealed := by
  intro node nodes
  have unbought : ∀ node ∈ nodes, node.purchased = false := by decide
  have fair : ∀ node ∈ nodes, 0 ≤ node.cost := by decide
  have evaluated : (UpgradeGraph.new? nodes [(0, 2), (1, 2)] [0, 1]).toOption.any (fun g =>
      let one := Shop.deal ⟨g, ⟨9⟩⟩ (.purchase 1)
      let two := one.deal (.purchase 0)
      g.isPurchased 2 = false ∧ 1 ∈ g.revealed ∧ 0 ∈ one.graph.revealed ∧ 2 ∈ two.graph.revealed) =
        true := by
    decide +kernel
  cases made : UpgradeGraph.new? nodes [(0, 2), (1, 2)] [0, 1] with
  | error m => rw [made] at evaluated; cases evaluated
  | ok g =>
    rw [made] at evaluated
    obtain ⟨left, first, second, third⟩ := of_decide_eq_true evaluated
    have picks : Shop.Picks ⟨g, ⟨9⟩⟩ [1, 0, 2] := ⟨first, second, third, trivial⟩
    obtain ⟨progress, greedy⟩ := buys_out made unbought
    obtain ⟨-, -, stops, complete⟩ := greedy ⟨9⟩ fair (by decide) _ picks
    exact ⟨g, rfl, unbought, fair, by decide, picks, stops.mpr rfl, (complete rfl).2,
      List.exists_mem_of_ne_nil _ (progress g .refl ⟨2, by decide, left⟩)⟩

end Shop

end RobotWorkshop
