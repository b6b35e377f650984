import Mathlib
import RobotWorkshop.Shop.UpgradeGraph

/-!
What the constructor of an unlock tree lets through.  The tree has the nodes, edges and roots that
are given (`UpgradeGraph.new?_eq_ok`); nothing comes before its roots, and something comes before
each of its other nodes (`UpgradeGraph.Rooted`).  So with nothing bought

    i ∈ g.revealed ↔ i ∈ g.roots                                     (UpgradeGraph.Rooted.mem_revealed)
-/

namespace RobotWorkshop

/-! ## What is read, without failure and with one -/

/-- Of two steps that succeed one after the other, each succeeds. -/
theorem bind_eq_ok {ε α β : Type} {first : Except ε α} {next : α → Except ε β} {b : β}
    (h : first >>= next = .ok b) : ∃ a, first = .ok a ∧ next a = .ok b := by
  cases first with
  | error e => cases h
  | ok a => exact ⟨a, rfl, h⟩

/-- What holds before a fold that does not fail, and is kept by each of its steps, holds at its end.
-/
theorem foldlM_eq_ok {ε α β : Type} {f : β → α → Except ε β} {P : List α → β → Prop}
    (step : ∀ a rest b b', P (a :: rest) b → f b a = .ok b' → P rest b') {as : List α} {b c : β}
    (start : P as b) (h : as.foldlM f b = .ok c) : P [] c := by
  induction as generalizing b with
  | nil =>
    obtain rfl := Except.ok.inj h
    exact start
  | cons a rest ih =>
    rw [List.foldlM_cons] at h
    obtain ⟨b', first, others⟩ := bind_eq_ok h
    exact ih (step a rest b b' start first) others

/-- A list that is read without failure is read item by item. -/
theorem forall₂_of_mapM {ε α β : Type} {f : α → Except ε β} {as : List α} {bs : List β}
    (h : as.mapM f = .ok bs) : List.Forall₂ (fun a b => f a = .ok b) as bs := by
  induction as generalizing bs with
  | nil =>
    obtain rfl := Except.ok.inj h
    exact .nil
  | cons a as ih =>
    rw [List.mapM_cons] at h
    obtain ⟨b, first, h⟩ := bind_eq_ok h
    obtain ⟨rest, others, h⟩ := bind_eq_ok h
    obtain rfl := Except.ok.inj h
    exact .cons first (ih others)

/-- What stands in a list that was read was read from something. -/
theorem of_mem_mapM {ε α β : Type} {f : α → Except ε β} {as : List α} {bs : List β} {b : β}
    (h : as.mapM f = .ok bs) (mem : b ∈ bs) : ∃ a ∈ as, f a = .ok b := by
  have read := forall₂_of_mapM h
  clear h
  induction read with
  | nil => cases mem
  | cons first _ ih =>
    rcases List.mem_cons.mp mem with rfl | later
    · exact ⟨_, List.mem_cons_self, first⟩
    · obtain ⟨a, mem_a, read_a⟩ := ih later
      exact ⟨a, List.mem_cons_of_mem _ mem_a, read_a⟩

/-- What is read and then changed was read. -/
theorem map_eq_ok {ε α β : Type} {f : α → β} {e : Except ε α} {b : β} (h : e.map f = .ok b) :
    ∃ a, e = .ok a ∧ f a = b := by
  cases e with
  | error fault => cases h
  | ok a => exact ⟨a, rfl, Except.ok.inj h⟩

/-- What is tested of the outcome, if there is one. -/
theorem of_any_toOption {ε α : Type} {e : Except ε α} {test : α → Bool}
    (h : e.toOption.any test = true) : ∃ a, e = .ok a ∧ test a = true := by
  cases e with
  | error fault => cases h
  | ok a => exact ⟨a, rfl, h⟩

/-- A fold that fails fails in one of its steps. -/
theorem of_foldlM_error {ε α β : Type} {f : β → α → Except ε β} {as : List α} {b : β} {e : ε}
    (h : as.foldlM f b = .error e) : ∃ b, ∃ a ∈ as, f b a = .error e := by
  induction as generalizing b with
  | nil => cases h
  | cons a as ih =>
    rw [List.foldlM_cons] at h
    cases first : f b a with
    | error e' =>
      rw [first] at h
      obtain rfl : e' = e := Except.error.inj h
      exact ⟨b, a, List.mem_cons_self, first⟩
    | ok b' =>
      rw [first] at h
      obtain ⟨b'', a', mem, failed⟩ := ih h
      exact ⟨b'', a', List.mem_cons_of_mem a mem, failed⟩

/-- A list that cannot be read has an item that cannot be read. -/
theorem of_mapM_error {ε α β : Type} {f : α → Except ε β} {as : List α} {e : ε}
    (h : as.mapM f = .error e) : ∃ a ∈ as, f a = .error e := by
  induction as with
  | nil => cases h
  | cons a as ih =>
    rw [List.mapM_cons] at h
    cases first : f a with
    | error e' =>
      rw [first] at h
      obtain rfl : e' = e := Except.error.inj h
      exact ⟨a, List.mem_cons_self, first⟩
    | ok b =>
      rw [first] at h
      cases others : as.mapM f with
      | error e' =>
        rw [others] at h
        obtain rfl : e' = e := Except.error.inj h
        obtain ⟨a', mem, failed⟩ := ih others
        exact ⟨a', List.mem_cons_of_mem a mem, failed⟩
      | ok bs =>
        rw [others] at h
        cases h

namespace UpgradeGraph

variable {g : UpgradeGraph} {i : Nat}

/-! ## What is visible -/

theorem mem_predecessors (g : UpgradeGraph) (p i : Nat) :
    p ∈ g.predecessors i ↔ p < g.size ∧ (p, i) ∈ g.edges := by
  simp [predecessors]

theorem isVisible_iff (g : UpgradeGraph) (i : Nat) :
    g.isVisible i = true ↔
      i ∈ g.roots ∨ ∀ p < g.size, (p, i) ∈ g.edges → g.isPurchased p = true := by
  simp [isVisible, mem_predecessors]

theorem mem_revealed (g : UpgradeGraph) (i : Nat) :
    i ∈ g.revealed ↔ i < g.size ∧ g.isVisible i = true ∧ g.isPurchased i = false := by
  simp [revealed, isPurchasable]

theorem revealed_pairwise_lt (g : UpgradeGraph) : g.revealed.Pairwise (· < ·) :=
  List.pairwise_lt_range.filter _

/-! ## What the constructor lets through -/

/-- Edges and roots are among the nodes, nothing comes before a root, and something comes before
every other node. -/
structure Rooted (g : UpgradeGraph) : Prop where
  edges_inside : ∀ p i, (p, i) ∈ g.edges → p < g.size ∧ i < g.size
  roots_inside : ∀ r ∈ g.roots, r < g.size
  roots_first : ∀ r ∈ g.roots, ∀ p, (p, r) ∉ g.edges
  no_orphans : ∀ i < g.size, i ∈ g.roots ∨ ∃ p, (p, i) ∈ g.edges

/-- The edges of the tree are those that are given. -/
def HasEdges (g : UpgradeGraph) (edges : List (Int × Int)) : Prop :=
  ∀ a b : Int, (a, b) ∈ edges ↔ ∃ p i : Nat, (p, i) ∈ g.edges ∧ a = p ∧ b = i

theorem HasEdges.mem_iff {edges : List (Int × Int)} (h : g.HasEdges edges) (p i : Nat) :
    ((p : Int), (i : Int)) ∈ edges ↔ (p, i) ∈ g.edges := by
  rw [h]
  constructor
  · rintro ⟨p', i', edge, same_p, same_i⟩
    rwa [Int.ofNat.inj same_p, Int.ofNat.inj same_i]
  · exact fun edge => ⟨p, i, edge, rfl, rfl⟩

theorem nodeIndex?_eq_some {size n : Nat} {index : Int} :
    nodeIndex? size index = some n ↔ index = n ∧ n < size := by
  unfold nodeIndex?
  split
  · rw [Option.some.injEq]
    omega
  · simp only [reduceCtorEq, false_iff]
    omega

/-- The edges that are kept are those that are given, and both their ends are nodes. -/
theorem checkEdges_eq_ok {size : Nat} {edges : List (Int × Int)} {kept : List Edge}
    (h : checkEdges size edges = .ok kept) :
    (∀ a b : Int, (a, b) ∈ edges ↔ ∃ p i : Nat, (p, i) ∈ kept ∧ a = p ∧ b = i) ∧
      ∀ p i, (p, i) ∈ kept → p < size ∧ i < size := by
  -- an edge that is given is still to come or has been kept
  have along := foldlM_eq_ok (P := fun rest kept =>
      (∀ a b : Int, (a, b) ∈ edges ↔
        (a, b) ∈ rest ∨ ∃ p i : Nat, (p, i) ∈ kept ∧ a = p ∧ b = i) ∧
      ∀ p i, (p, i) ∈ kept → p < size ∧ i < size) ?_ ⟨by simp, by simp⟩ h
  · simpa using along
  · rintro ⟨source, target⟩ rest checked checked' ⟨same, inside⟩ stepped
    dsimp only at stepped
    split at stepped
    · rename_i s t tail head
      obtain ⟨rfl, s_lt⟩ := nodeIndex?_eq_some.mp tail
      obtain ⟨rfl, t_lt⟩ := nodeIndex?_eq_some.mp head
      have added : ∀ p i, (p, i) ∈ checked' ↔ (p, i) ∈ checked ∨ (p = s ∧ i = t) := by
        intro p i
        obtain rfl := Except.ok.inj stepped
        split
        · rename_i there
          exact ⟨.inl, fun h => h.elim id fun ⟨hp, hi⟩ => hp ▸ hi ▸ there⟩
        · simp
      constructor
      · intro a b
        rw [same, List.mem_cons, Prod.mk.injEq]
        constructor
        · rintro ((⟨rfl, rfl⟩ | later) | ⟨p, i, before, rfl, rfl⟩)
          · exact .inr ⟨s, t, (added s t).mpr (.inr ⟨rfl, rfl⟩), rfl, rfl⟩
          · exact .inl later
          · exact .inr ⟨p, i, (added p i).mpr (.inl before), rfl, rfl⟩
        · rintro (later | ⟨p, i, mem, rfl, rfl⟩)
          · exact .inl (.inr later)
          · rcases (added p i).mp mem with before | ⟨rfl, rfl⟩
            · exact .inr ⟨p, i, before, rfl, rfl⟩
            · exact .inl (.inl ⟨rfl, rfl⟩)
      · intro p i mem
        rcases (added p i).mp mem with before | ⟨rfl, rfl⟩
        · exact inside p i before
        · exact ⟨s_lt, t_lt⟩
    · cases stepped

/-- The roots that are kept are those that are given; they are nodes, and no edge leads to them. -/
theorem checkRoots_eq_ok {size : Nat} {edges : List Edge} {roots : List Int} {kept : List Nat}
    (h : checkRoots size edges roots = .ok kept) :
    roots = kept.map (fun r : Nat => (r : Int)) ∧ ∀ r ∈ kept, r < size ∧ ∀ p, (p, r) ∉ edges := by
  have checked := forall₂_of_mapM h
  clear h
  induction checked with
  | nil => exact ⟨rfl, fun r mem => nomatch mem⟩
  | @cons root r roots kept first others ih =>
    obtain ⟨same, sound⟩ := ih
    split at first
    · cases first
    · rename_i found
      split at first
      · cases first
      · rename_i headless
        obtain rfl := Except.ok.inj first
        obtain ⟨rfl, r_lt⟩ := nodeIndex?_eq_some.mp found
        refine ⟨by rw [same]; rfl, ?_⟩
        rintro r' (_ | ⟨_, later⟩)
        · refine ⟨r_lt, fun p mem => headless ?_⟩
          exact List.any_eq_true.mpr ⟨_, mem, by simp⟩
        · exact sound r' later

/-- A node that is reached is there from the start or at the head of an edge. -/
theorem of_mem_reachable {reached : List Nat} {edges : List Edge} (h : i ∈ reachable reached edges) :
    i ∈ reached ∨ ∃ p, (p, i) ∈ edges := by
  induction count : edges.length using Nat.strongRecOn generalizing reached edges with
  | _ n ih =>
    subst count
    rw [reachable] at h
    split at h
    · rename_i fewer
      rcases ih _ fewer h rfl with before | ⟨p, later⟩
      · rcases List.mem_append.mp before with first | head
        · exact .inl first
        · obtain ⟨⟨p, i⟩, mem, rfl⟩ := List.mem_map.mp head
          exact .inr ⟨p, List.mem_of_mem_filter mem⟩
      · exact .inr ⟨p, List.mem_of_mem_filter later⟩
    · exact .inl h

theorem checkPaths_eq_ok {size : Nat} {edges : List Edge} {roots : List Nat}
    (h : checkPaths size edges roots = .ok ()) {i : Nat} (inside : i < size) :
    i ∈ reachable roots edges := by
  unfold checkPaths at h
  split at h
  · split at h <;> cases h
  · dsimp only at h
    split at h
    · rename_i none_missing
      by_contra missing
      have mem : i ∈ (List.range size).filter (· ∉ reachable roots edges) := by simp [inside, missing]
      rw [none_missing] at mem
      cases mem
    · cases h

/-- **What the constructor gives** is the tree of the given nodes, edges and roots. -/
theorem new?_eq_ok {nodes : List UpgradeNode} {edges : List (Int × Int)} {roots : List Int}
    (h : new? nodes edges roots = .ok g) :
    g.nodes = nodes ∧ g.HasEdges edges ∧ roots = g.roots.map (fun r : Nat => (r : Int)) ∧
      g.Rooted := by
  replace h := new?_eq_ok_iff.mp h
  unfold checked? at h
  split at h
  · cases h
  rename_i kept checked
  split at h
  · cases h
  split at h
  · cases h
  rename_i firsts rooted
  split at h
  · cases h
  rename_i paths
  obtain rfl := Except.ok.inj h
  obtain ⟨same_edges, inside⟩ := checkEdges_eq_ok checked
  obtain ⟨same_roots, sound⟩ := checkRoots_eq_ok rooted
  refine ⟨rfl, same_edges, same_roots, inside, fun r mem => (sound r mem).1,
    fun r mem => (sound r mem).2, ?_⟩
  intro i i_lt
  exact of_mem_reachable (checkPaths_eq_ok paths i_lt)

/-! ## Before anything is bought -/

theorem isPurchased_of_unbought (unbought : ∀ node ∈ g.nodes, node.purchased = false) (i : Nat) :
    g.isPurchased i = false := by
  unfold isPurchased
  cases here : g.nodes[i]? with
  | none => rfl
  | some node => exact unbought node (List.mem_of_getElem? here)

/-- With nothing bought just the roots are revealed. -/
theorem Rooted.mem_revealed (rooted : g.Rooted)
    (unbought : ∀ node ∈ g.nodes, node.purchased = false) (i : Nat) :
    i ∈ g.revealed ↔ i ∈ g.roots := by
  have nothing := isPurchased_of_unbought unbought
  rw [UpgradeGraph.mem_revealed, isVisible_iff]
  constructor
  · rintro ⟨i_lt, seen, -⟩
    rcases rooted.no_orphans i i_lt with root | ⟨p, edge⟩
    · exact root
    · refine seen.resolve_right fun all => ?_
      have bought := all p (rooted.edges_inside p i edge).1 edge
      rw [nothing p] at bought
      cases bought
  · exact fun root => ⟨rooted.roots_inside i root, .inl root, nothing i⟩

/-- They are revealed in ascending order, each once. -/
theorem Rooted.revealed_eq_sort (rooted : g.Rooted)
    (unbought : ∀ node ∈ g.nodes, node.purchased = false) :
    g.revealed.map (fun i : Nat => (i : Int)) =
      (g.roots.map fun r : Nat => (r : Int)).toFinset.sort := by
  have ascending : (g.revealed.map (fun i : Nat => (i : Int))).Pairwise (· < ·) :=
    g.revealed_pairwise_lt.map _ fun a b lt => Int.ofNat_lt.mpr lt
  have same : (g.roots.map fun r : Nat => (r : Int)).toFinset =
      (g.revealed.map fun i : Nat => (i : Int)).toFinset := by
    ext a
    simp [rooted.mem_revealed unbought]
  rw [same]
  exact ((List.toFinset_sort _ (ascending.imp ne_of_lt)).mpr (ascending.imp le_of_lt)).symm

end UpgradeGraph

end RobotWorkshop
