import RobotWorkshop.Proofs.Purchases

/-!
The unlock tree while it is bought up.  Whatever has been bought has everything before it bought too
(`UpgradeGraph.Closed`), and the sale of `i` changes what is on sale by

    j is revealed after it  ↔  j was revealed and j ≠ i,
                               or i comes before j and everything before j is bought  (Sells.mem_revealed)

What is bought stays bought, so what is visible stays visible (`UpgradeGraph.Later`).  All this
holds after any purchases and deposits (`Shop.prerequisites_respected`).
-/

namespace RobotWorkshop

namespace UpgradeGraph

variable {g g' : UpgradeGraph} {i : Nat}

@[simp] theorem size_markPurchased (g : UpgradeGraph) (i : Nat) : (g.markPurchased i).size = g.size :=
  List.length_modify _ _ _

/-! ## Trees that differ in what is bought -/

/-- The tree at a later time: more may have been bought, and nothing else has changed. -/
structure Later (g g' : UpgradeGraph) : Prop where
  size : g'.size = g.size
  edges : g'.edges = g.edges
  roots : g'.roots = g.roots
  purchased : ∀ i, g.isPurchased i = true → g'.isPurchased i = true

theorem Later.refl (g : UpgradeGraph) : Later g g := ⟨rfl, rfl, rfl, fun _ => id⟩

theorem Later.trans {g'' : UpgradeGraph} (h : Later g g') (h' : Later g' g'') : Later g g'' where
  size := h'.size.trans h.size
  edges := h'.edges.trans h.edges
  roots := h'.roots.trans h.roots
  purchased i bought := h'.purchased i (h.purchased i bought)

/-- What is visible stays visible. -/
theorem Later.visible (h : Later g g') (seen : g.isVisible i = true) : g'.isVisible i = true := by
  rw [isVisible_iff] at seen ⊢
  rw [h.roots, h.edges, h.size]
  refine seen.imp_right fun all p p_lt edge => ?_
  exact h.purchased p (all p p_lt edge)

theorem Later.rooted (h : Later g g') (rooted : g.Rooted) : g'.Rooted := by
  constructor
  · rw [h.edges, h.size]
    exact rooted.edges_inside
  · rw [h.roots, h.size]
    exact rooted.roots_inside
  · rw [h.roots, h.edges]
    exact rooted.roots_first
  · rw [h.size, h.roots, h.edges]
    exact rooted.no_orphans

theorem Later.hasEdges {edges : List (Int × Int)} (h : Later g g') (given : g.HasEdges edges) :
    g'.HasEdges edges := by
  unfold HasEdges
  rw [h.edges]
  exact given

/-- What has been bought is never revealed again. -/
theorem Later.not_mem_revealed (h : Later g g') (bought : g.isPurchased i = true) :
    i ∉ g'.revealed := by
  intro mem
  have unbought := ((g'.mem_revealed i).mp mem).2.2
  rw [h.purchased i bought] at unbought
  cases unbought

/-! ## One sale -/

/-- Whatever has been bought has everything before it bought too. -/
def Closed (g : UpgradeGraph) : Prop :=
  ∀ p i, (p, i) ∈ g.edges → g.isPurchased i = true → g.isPurchased p = true

section
variable {w : Wallet} {index : Int} {sale : Sale} (sold : g.Sells w index sale i)
include sold

theorem Sells.later : Later g (g.markPurchased i) where
  size := g.size_markPurchased i
  edges := rfl
  roots := rfl
  purchased j bought := (sold.purchased_iff j).mpr (.inr bought)

/-- What is sold comes after nothing or after what has been bought. -/
theorem Sells.before_bought (rooted : g.Rooted) {p : Nat} (edge : (p, i) ∈ g.edges) :
    g.isPurchased p = true := by
  rcases (g.isVisible_iff i).mp sold.visible with root | all
  · exact absurd edge (rooted.roots_first i root p)
  · exact all p (rooted.edges_inside p i edge).1 edge

/-- **Step lemma.** -/
theorem Sells.closed (rooted : g.Rooted) (closed : g.Closed) : (g.markPurchased i).Closed := by
  intro p k edge bought
  rw [sold.purchased_iff] at bought ⊢
  right
  rcases bought with rfl | before
  · exact sold.before_bought rooted edge
  · exact closed p k edge before

theorem Sells.unpurchased_iff (j : Nat) :
    (g.markPurchased i).isPurchased j = false ↔ j ≠ i ∧ g.isPurchased j = false := by
  have same := sold.purchased_iff j
  rw [Bool.eq_false_iff, Bool.eq_false_iff, ne_eq, ne_eq, same, not_or]

/-- **What a sale reveals**: no longer the node that is sold, and the nodes right after it that come
after nothing else unbought. -/
theorem Sells.mem_revealed (rooted : g.Rooted) (closed : g.Closed) (j : Nat) :
    j ∈ (g.markPurchased i).revealed ↔
      (j ∈ g.revealed ∧ j ≠ i) ∨
        ((i, j) ∈ g.edges ∧ ∀ p, (p, j) ∈ g.edges → (g.markPurchased i).isPurchased p = true) := by
  rw [UpgradeGraph.mem_revealed, UpgradeGraph.mem_revealed, size_markPurchased, sold.unpurchased_iff]
  constructor
  · rintro ⟨j_lt, seen, other, unbought⟩
    by_cases before : g.isVisible j = true
    · exact .inl ⟨⟨j_lt, before, unbought⟩, other⟩
    -- something before `j` was not bought, but now it is: that must be `i`
    · right
      rw [isVisible_iff] at before seen
      obtain ⟨not_root, missing⟩ := not_or.mp before
      have all := seen.resolve_left not_root
      push Not at missing
      obtain ⟨p, p_lt, edge, unbought_p⟩ := missing
      have bought_p := (sold.purchased_iff p).mp (all p (size_markPurchased g i ▸ p_lt) edge)
      obtain rfl := bought_p.resolve_right unbought_p
      refine ⟨edge, fun q edge_q => all q ?_ edge_q⟩
      rw [size_markPurchased]
      exact (rooted.edges_inside q j edge_q).1
  · rintro (⟨⟨j_lt, seen, unbought⟩, other⟩ | ⟨edge, all⟩)
    · exact ⟨j_lt, sold.later.visible seen, other, unbought⟩
    · refine ⟨(rooted.edges_inside i j edge).2, ?_, ?_, ?_⟩
      · rw [isVisible_iff]
        exact .inr fun p _ edge_p => all p edge_p
      · -- nothing comes before itself and is sold
        rintro rfl
        have bought := sold.before_bought rooted edge
        rw [sold.unpurchased] at bought
        cases bought
      · by_contra bought
        have bought_i := closed i j edge (by simpa using bought)
        rw [sold.unpurchased] at bought_i
        cases bought_i

end

/-- What comes before something that has been bought, along the edges as they are given, has been
bought. -/
theorem Closed.path {edges : List (Int × Int)} (closed : g.Closed)
    (given : g.HasEdges edges) {a b : Int}
    (path : Relation.TransGen (fun a b => (a, b) ∈ edges) a b) (i : Nat) (here : b = i)
    (bought : g.isPurchased i = true) : ∃ p : Nat, a = p ∧ g.isPurchased p = true := by
  -- an edge leads back to a bought node
  have back : ∀ {a b : Int} (i : Nat), (a, b) ∈ edges → b = i → g.isPurchased i = true →
      ∃ p : Nat, a = p ∧ g.isPurchased p = true := by
    intro a b i edge here bought
    obtain ⟨p, k, mem, rfl, rfl⟩ := (given a b).mp edge
    obtain rfl := Int.ofNat.inj here
    exact ⟨p, rfl, closed p k mem bought⟩
  induction path generalizing i with
  | single edge => exact back i edge here bought
  | tail _ edge ih =>
    obtain ⟨k, at_k, bought_k⟩ := back i edge here bought
    exact ih k at_k bought_k

end UpgradeGraph

/-! ## Purchases and deposits -/

/-- What is done with a tree and the wallet that pays for its nodes. -/
inductive Deal where
  | purchase (index : Int)
  | deposit (amount : Int)

structure Shop where
  graph : UpgradeGraph
  wallet : Wallet

namespace Shop

/-- One deal; what is refused changes nothing. -/
def deal (shop : Shop) : Deal → Shop
  | .purchase index =>
    match shop.graph.buy? index shop.wallet with
    | .ok sale => ⟨sale.graph, sale.wallet⟩
    | .error _ => shop
  | .deposit amount =>
    match shop.wallet.deposit? amount with
    | .ok wallet => { shop with wallet }
    | .error _ => shop

def after (shop : Shop) (deals : List Deal) : Shop := deals.foldl deal shop

/-- **Run lemma.**  What holds of a tree and is kept by each sale holds after any deals. -/
theorem after_induction {P : UpgradeGraph → Prop}
    (step : ∀ {g w index sale i}, UpgradeGraph.Sells g w index sale i → P g → P (g.markPurchased i))
    {shop : Shop} (start : P shop.graph) (deals : List Deal) : P (shop.after deals).graph := by
  unfold after
  induction deals generalizing shop with
  | nil => exact start
  | cons d deals ih =>
    refine ih ?_
    cases d with
    | purchase index =>
      simp only [deal]
      cases bought : shop.graph.buy? index shop.wallet with
      | error entry => exact start
      | ok sale =>
        obtain ⟨i, sold⟩ := UpgradeGraph.buy?_sells bought
        show P sale.graph
        rw [sold.graph]
        exact step sold start
    | deposit amount =>
      simp only [deal]
      cases shop.wallet.deposit? amount with
      | error cause => exact start
      | ok wallet => exact start

theorem after_later (shop : Shop) (deals : List Deal) : shop.graph.Later (shop.after deals).graph :=
  after_induction (P := shop.graph.Later) (fun sold later => later.trans sold.later) (.refl _) deals

theorem after_closed (shop : Shop) (rooted : shop.graph.Rooted) (closed : shop.graph.Closed)
    (deals : List Deal) : (shop.after deals).graph.Rooted ∧ (shop.after deals).graph.Closed :=
  after_induction (P := fun g => g.Rooted ∧ g.Closed)
    (fun sold ⟨rooted, closed⟩ => ⟨sold.later.rooted rooted, sold.closed rooted closed⟩)
    ⟨rooted, closed⟩ deals

/-- **Purchases respect the prerequisites.**  A new tree with nothing bought offers just its roots.
After any deals, what has been bought has everything before it bought; a purchase that goes through
takes its node off the offer and adds the nodes right after it that nothing unbought is before; what
is visible stays visible, and what has been bought is not offered again. -/
theorem prerequisites_respected {nodes : List UpgradeNode} {edges : List (Int × Int)}
    {roots : List Int} {g : UpgradeGraph} (made : UpgradeGraph.new? nodes edges roots = .ok g)
    (unbought : ∀ node ∈ nodes, node.purchased = false) (wallet : Wallet) (deals : List Deal) :
    let shop := Shop.after ⟨g, wallet⟩ deals
    g.revealed.map (fun i : Nat => (i : Int)) = roots.toFinset.sort ∧
    (∀ p i : Nat, Relation.TransGen (fun a b => (a, b) ∈ edges) (p : Int) (i : Int) →
      shop.graph.isPurchased i = true → shop.graph.isPurchased p = true) ∧
    (∀ (index : Int) (sale : Sale), shop.graph.buy? index shop.wallet = .ok sale →
      ∀ j : Nat, j ∈ sale.graph.revealed ↔
        (j ∈ shop.graph.revealed ∧ (j : Int) ≠ index) ∨
          ((index, (j : Int)) ∈ edges ∧
            ∀ p : Nat, ((p : Int), (j : Int)) ∈ edges → sale.graph.isPurchased p = true)) ∧
    ∀ more : List Deal,
      let later := (shop.after more).graph
      (∀ i, shop.graph.isVisible i = true → later.isVisible i = true) ∧
        ∀ i, shop.graph.isPurchased i = true → i ∉ later.revealed := by
  obtain ⟨same_nodes, given, rfl, rooted⟩ := UpgradeGraph.new?_eq_ok made
  subst same_nodes
  intro shop
  have nothing := UpgradeGraph.isPurchased_of_unbought unbought
  have closed_first : g.Closed := fun p i _ bought => by simp [nothing i] at bought
  have later : g.Later shop.graph := after_later ⟨g, wallet⟩ deals
  obtain ⟨rooted_now, closed⟩ := after_closed ⟨g, wallet⟩ rooted closed_first deals
  have given_now : shop.graph.HasEdges edges := later.hasEdges given
  refine ⟨rooted.revealed_eq_sort unbought, ?_, ?_, ?_⟩
  · intro p i path bought
    obtain ⟨p', same, bought'⟩ := closed.path given_now path i rfl bought
    rwa [Int.ofNat.inj same]
  · intro index sale bought j
    obtain ⟨i, sold⟩ := UpgradeGraph.buy?_sells bought
    rw [sold.index_eq, sold.graph, sold.mem_revealed rooted_now closed, given_now.mem_iff]
    simp only [given_now.mem_iff, ne_eq, Int.natCast_inj]
  · intro more
    have after : shop.graph.Later (shop.after more).graph := after_later shop more
    exact ⟨fun i => after.visible, fun i => after.not_mem_revealed⟩

/-- A node after two roots, one of which is named twice, as is one edge.  Its purchase is refused
until both are bought. -/
theorem prerequisites_respected_two_roots :
    let node (cost : Int) : UpgradeNode := { kind := .speedBoost, level := 1, cost }
    let nodes := [node 2, node 3, node 0, node 7]
    let edges : List (Int × Int) := [(0, 2), (1, 2), (0, 2), (2, 3)]
    let deals : List Deal :=
      [.purchase 0, .deposit 5, .purchase 0, .purchase 2, .deposit (-1), .purchase (-1), .purchase 0]
    ∃ g sale, UpgradeGraph.new? nodes edges [1, 0, 1] = .ok g ∧
      (∀ node ∈ nodes, node.purchased = false) ∧
      (Shop.after ⟨g, {}⟩ deals).graph.buy? 1 (Shop.after ⟨g, {}⟩ deals).wallet = .ok sale ∧
      g.revealed.map (fun i : Nat => (i : Int)) = [0, 1] ∧ 2 ∈ sale.graph.revealed ∧
      ∀ more, 0 ∉ ((Shop.after ⟨g, {}⟩ deals).after more).graph.revealed := by
  intro node nodes edges deals
  have unbought : ∀ node ∈ nodes, node.purchased = false := by decide
  have evaluated : (UpgradeGraph.new? nodes edges [1, 0, 1]).toOption.any (fun g =>
      let shop := Shop.after ⟨g, {}⟩ deals
      shop.graph.isPurchased 0 = true ∧
        (shop.graph.buy? 1 shop.wallet).toOption.any (fun sale =>
          ∀ p ∈ [0, 1], sale.graph.isPurchased p = true) = true) = true := by
    decide +kernel
  cases made : UpgradeGraph.new? nodes edges [1, 0, 1] with
  | error m => rw [made] at evaluated; cases evaluated
  | ok g =>
    rw [made] at evaluated
    obtain ⟨bought, sells⟩ := of_decide_eq_true evaluated
    obtain ⟨first, -, revealing, lasting⟩ := prerequisites_respected made unbought {} deals
    cases sold : (Shop.after ⟨g, {}⟩ deals).graph.buy? 1 (Shop.after ⟨g, {}⟩ deals).wallet with
    | error entry => rw [sold] at sells; cases sells
    | ok sale =>
      rw [sold] at sells
      have both := of_decide_eq_true sells
      refine ⟨g, sale, rfl, unbought, sold, ?_, ?_, fun more => (lasting more).2 0 bought⟩
      · have roots : ([1, 0, 1] : List Int).toFinset = [0, 1].toFinset := by decide
        rw [first, roots]
        exact (List.toFinset_sort _ (by decide)).mpr (by decide)
      · have before : ∀ p : Nat, ((p : Int), (2 : Int)) ∈ edges → p ∈ [0, 1] := by
          intro p edge
          simp only [edges, List.mem_cons, Prod.mk.injEq, List.not_mem_nil, or_false] at edge ⊢
          omega
        exact (revealing 1 sale sold 2).mpr (.inr ⟨by decide, fun p edge => both p (before p edge)⟩)

end Shop

end RobotWorkshop
