import RobotWorkshop.Proofs.RootedTrees

/-!
What the removal of edges finds out.  Each edge that is left over (`cyclicPart`) begins where
another one that is left over ends.  So one can walk back along them forever, and

    isAcyclic edges = true  ↔  no path along the edges comes back to where it started  (isAcyclic_iff)

The constructor of an unlock tree lets only such edges through, so the nodes of a tree can be taken
in an order in which each stands behind its predecessors (`UpgradeGraph.wellFounded_of_new?`).
-/

namespace RobotWorkshop

variable {edges : List Edge}

/-- An edge leads from the one node to the other. -/
def Leads (edges : List Edge) (a b : Nat) : Prop := (a, b) ∈ edges

/-! ## What is left over -/

theorem mem_continuing (e : Edge) : e ∈ continuing edges ↔ e ∈ edges ∧ ∃ p, Leads edges p e.1 := by
  simp [continuing, Leads]

/-- The edges that are left over are edges, and each of them begins where one of them ends. -/
theorem cyclicPart_spec (edges : List Edge) :
    (∀ e ∈ cyclicPart edges, e ∈ edges) ∧
      ∀ e ∈ cyclicPart edges, ∃ p, Leads (cyclicPart edges) p e.1 := by
  induction count : edges.length using Nat.strongRecOn generalizing edges with
  | _ n ih =>
    subst count
    rw [cyclicPart]
    split
    · rename_i fewer
      obtain ⟨among, preceded⟩ := ih _ fewer _ rfl
      exact ⟨fun e mem => ((mem_continuing e).mp (among e mem)).1, preceded⟩
    · rename_i all
      refine ⟨fun _ => id, fun e mem => ?_⟩
      -- a filter that drops nothing keeps every edge
      have kept : continuing edges = edges :=
        List.filter_sublist.eq_of_length_le (Nat.le_of_not_lt all)
      rw [← kept] at mem
      exact ((mem_continuing e).mp mem).2

/-- When nothing is left over, the nodes can be taken in an order in which each stands behind its
predecessors. -/
theorem wellFounded_of_isAcyclic (h : isAcyclic edges = true) : WellFounded (Leads edges) := by
  have nothing : cyclicPart edges = [] := List.isEmpty_iff.mp h
  clear h
  induction count : edges.length using Nat.strongRecOn generalizing edges with
  | _ n ih =>
    subst count
    rw [cyclicPart] at nothing
    split at nothing
    · rename_i fewer
      have rest : WellFounded (Leads (continuing edges)) := ih _ fewer nothing rfl
      refine ⟨fun b => rest.induction b fun b before => ⟨b, fun a edge => ?_⟩⟩
      by_cases preceded : ∃ p, Leads edges p a
      · exact before a ((mem_continuing (a, b)).mpr ⟨edge, preceded⟩)
      · exact ⟨a, fun p edge' => absurd ⟨p, edge'⟩ preceded⟩
    · subst nothing
      exact ⟨fun b => ⟨b, fun a edge => nomatch edge⟩⟩

/-- Along finitely many edges, each of which begins where one of them ends, one can walk in a
circle. -/
theorem exists_circle (preceded : ∀ e ∈ edges, ∃ p, Leads edges p e.1) (some_edge : edges ≠ []) :
    ∃ a, Relation.TransGen (Leads edges) a a := by
  by_contra no_circle
  push Not at no_circle
  -- otherwise some tail is the first one, with respect to the paths between tails
  let Tail := { a : Nat // a ∈ edges.map (·.1) }
  let before (a b : Tail) : Prop := Relation.TransGen (Leads edges) a.1 b.1
  have trans : IsTrans Tail before := ⟨fun a b c => Relation.TransGen.trans⟩
  have irrefl : Std.Irrefl before := ⟨fun a => no_circle a.1⟩
  have finite : Finite Tail := (edges.map (·.1)).finite_toSet.to_subtype
  have ordered : WellFounded before := Finite.wellFounded_of_trans_of_irrefl before
  obtain ⟨e, mem⟩ := List.exists_mem_of_ne_nil _ some_edge
  obtain ⟨⟨a, tail⟩, -, first⟩ := ordered.has_min Set.univ ⟨⟨e.1, List.mem_map_of_mem mem⟩, trivial⟩
  obtain ⟨e, mem, rfl⟩ := List.mem_map.mp tail
  obtain ⟨p, edge⟩ := preceded e mem
  exact first ⟨p, List.mem_map_of_mem edge⟩ trivial (.single edge)

/-- **Edges are acyclic** just if no path along them comes back to where it started. -/
theorem isAcyclic_iff : isAcyclic edges = true ↔ ∀ a, ¬Relation.TransGen (Leads edges) a a := by
  constructor
  · intro acyclic a circle
    exact (wellFounded_of_isAcyclic acyclic).transGen.irrefl.irrefl a circle
  · intro no_circle
    by_contra left
    have some_edge : cyclicPart edges ≠ [] := fun nothing => left (List.isEmpty_iff.mpr nothing)
    obtain ⟨among, preceded⟩ := cyclicPart_spec edges
    obtain ⟨a, circle⟩ := exists_circle preceded some_edge
    exact no_circle a (Relation.TransGen.mono (fun a b edge => among (a, b) edge) a a circle)

/-! ## Trees -/

namespace UpgradeGraph

theorem isAcyclic_of_checkPaths {size : Nat} {roots : List Nat}
    (h : checkPaths size edges roots = .ok ()) : isAcyclic edges = true := by
  unfold checkPaths at h
  split at h
  · split at h <;> cases h
  · simp_all

/-- Each node of a new tree stands behind its predecessors. -/
theorem wellFounded_of_new? {nodes : List UpgradeNode} {edges : List (Int × Int)} {roots : List Int}
    {g : UpgradeGraph} (h : new? nodes edges roots = .ok g) : WellFounded (Leads g.edges) := by
  replace h := new?_eq_ok_iff.mp h
  unfold checked? at h
  split at h
  · cases h
  split at h
  · cases h
  split at h
  · cases h
  split at h
  · cases h
  rename_i paths
  obtain rfl := Except.ok.inj h
  exact wellFounded_of_isAcyclic (isAcyclic_of_checkPaths paths)

end UpgradeGraph

end RobotWorkshop
