import RobotWorkshop.Proofs.Admission

/-!
The cycle that is listed for a graph with a cycle.  The search stops at an edge that leads back to
its trail.  On the trail each edge goes on where the one before it ends, and no two begin at the same
node, so from the node that the last edge leads to the trail is a cycle (`Closing.circuit`):

    trail:       0 → 1 → 2 → 3 → 1        listed:       1 → 2 → 3 → 1

The removal of edges says whether there is a cycle, the search lists one; by `isSome_findCycle?` the
search never misses, and what it lists is a circuit of the edges that were given
(`UpgradeGraph.new?_lists_circuit`).
-/

namespace RobotWorkshop

variable {edges : List Edge}

/-- The edges run in a circle: each of them is one of those in question and begins where the one
before it ends, the last one ends where the first begins, and no two begin at the same node. -/
structure Circuit (leads : Nat → Nat → Prop) (cycle : List Edge) : Prop where
  some_edge : cycle ≠ []
  among : ∀ e ∈ cycle, leads e.1 e.2
  joined : cycle.IsChain fun e next => e.2 = next.1
  closed : cycle.getLast?.map (·.2) = cycle.head?.map (·.1)
  simple : (cycle.map (·.1)).Nodup

/-! ## From a trail to a circuit -/

theorem Joined.isChain {start : Nat} {path : List Edge} (h : Joined start path) :
    path.IsChain fun e before => before.2 = e.1 := by
  induction path with
  | nil => exact .nil
  | cons e path ih =>
    cases path with
    | nil => exact .singleton e
    | cons before path =>
      have tails : e.1 :: (before :: path).map (·.1) = before.2 :: (path.map (·.2) ++ [start]) := h
      obtain ⟨here, earlier⟩ := List.cons.inj tails
      exact List.isChain_cons_cons.mpr ⟨here.symm, ih earlier⟩

/-- A path whose last edge leads back to it.  The last edge comes first. -/
structure Closing (edges : List Edge) (path : List Edge) : Prop where
  among : ∀ e ∈ path, e ∈ edges
  joined : path.IsChain fun e before => before.2 = e.1
  simple : (path.map (·.1)).Nodup
  back : ∃ last, path.head? = some last ∧ last.2 ∈ path.map (·.1)

/-- **What closes a search** leads back to its trail. -/
theorem Ending.closing {explored : List Nat} {start : Nat} {path : List Edge}
    (h : Ending edges explored start (.inl path)) : Closing edges path := by
  cases h with
  | closed walking found back =>
    obtain ⟨active, -, -⟩ := walking.along.backTo
    obtain ⟨tails, joined, among⟩ := walking.closing found
    refine ⟨among, joined.isChain, ?_, _, rfl, ?_⟩
    · rw [tails, active]
      exact walking.along.suffix.sublist.nodup walking.along.nodup
    · rwa [tails]

/-- Without the edges that lead up to the node where it closes, the path is a circuit. -/
theorem Closing.circuit {path : List Edge} (h : Closing edges path) :
    Circuit (Leads edges)
      (path.reverse.dropWhile fun e => some e.1 ≠ path.head?.map (·.2)) := by
  obtain ⟨last, is_last, back⟩ := h.back
  obtain ⟨first, mem, tail⟩ := List.mem_map.mp back
  rw [is_last, Option.map_some]
  generalize dropped : (path.reverse.dropWhile fun e => some e.1 ≠ some last.2) = cycle
  have suffix : cycle <:+ path.reverse := dropped ▸ List.dropWhile_suffix _
  have some_edge : cycle ≠ [] := by
    intro nothing
    rw [nothing, List.dropWhile_eq_nil_iff] at dropped
    simpa [tail] using dropped first (List.mem_reverse.mpr mem)
  have begins : cycle.head?.map (·.1) = some last.2 := by
    subst dropped
    rw [List.head?_eq_some_head some_edge]
    simpa using List.head_dropWhile_not (fun e : Edge => some e.1 ≠ some last.2) some_edge
  have ends : cycle.getLast? = some last := by
    obtain ⟨front, split⟩ := suffix
    rw [← List.getLast?_append_of_ne_nil front some_edge, split, List.getLast?_reverse, is_last]
  exact {
    some_edge
    among := fun e mem => h.among e (List.mem_reverse.mp (suffix.subset mem))
    joined := (List.isChain_reverse.mpr h.joined).suffix suffix
    closed := by rw [ends, begins]; rfl
    simple := by
      refine (suffix.sublist.map _).nodup ?_
      rw [List.map_reverse]
      exact List.nodup_reverse.mpr h.simple }

/-! ## The search -/

/-- **Run lemma.**  Whichever of the searches shows a cycle, its path leads back to itself. -/
theorem closing_of_searchFrom {explored nodes : List Nat} {path : List Edge}
    (settled : Settled edges explored) (found : searchFrom edges explored nodes = some path) :
    Closing edges path := by
  induction nodes generalizing explored with
  | nil => cases found
  | cons node nodes ih =>
    rw [searchFrom] at found
    split at found
    · exact ih settled found
    · have ending := ending_of_start settled node
      split at found
      · rename_i shown followed
        obtain rfl := Option.some.inj found
        rw [followed] at ending
        exact ending.closing
      · rename_i seen followed
        rw [followed] at ending
        exact ih (ending.settled settled).2 found

/-- **What the search finds** is a circuit. -/
theorem circuit_of_findCycle? {size : Nat} {cycle : List Edge}
    (found : findCycle? size edges = some cycle) : Circuit (Leads edges) cycle := by
  obtain ⟨path, searched, rfl⟩ := Option.map_eq_some_iff.mp found
  have settled : Settled edges [] := fun _ mem => nomatch mem
  exact (closing_of_searchFrom settled searched).circuit

/-! ## The constructor of a tree -/

namespace UpgradeGraph

variable {size : Nat} {kept : List Edge} {firsts : List Nat}

theorem circuit_of_checkPaths {cycle : List Edge}
    (h : checkPaths size kept firsts = .error (.cycle cycle)) : Circuit (Leads kept) cycle := by
  unfold checkPaths at h
  split at h
  · split at h
    · rename_i found
      obtain rfl := Malformed.cycle.inj (Except.error.inj h)
      exact circuit_of_findCycle? found
    · cases h
  · dsimp only at h
    split at h <;> cases h

/-- **A graph with a cycle is turned down with a circuit** of its own edges, when the ends of its
edges and its roots are in order. -/
theorem new?_lists_circuit (nodes : List UpgradeNode) (edges : List (Int × Int)) (roots : List Int)
    (inside : ∀ e ∈ edges, ¬Dangles nodes.length e) (some_root : roots ≠ [])
    (fit : ∀ r ∈ roots, ¬Unfit nodes.length edges r)
    (circle : ∃ a, Relation.TransGen (Precedes edges) a a) :
    ∃ cycle, new? nodes edges roots = .error (.malformed (.cycle cycle)) ∧
      Circuit (fun a b => Precedes edges a b) cycle := by
  obtain ⟨kept, firsts, same, kept_inside, -, made⟩ := checked?_of_founded inside some_root fit
  have cyclic : isAcyclic kept = false := by
    rw [Bool.eq_false_iff, ne_eq, same.isAcyclic_iff_given]
    exact not_forall_not.mpr circle
  obtain ⟨cycle, found⟩ := checkPaths_of_circle firsts kept_inside cyclic
  have circuit := circuit_of_checkPaths found
  rw [found] at made
  refine ⟨cycle, new?_of_checked?_error made, { circuit with among := fun e mem => ?_ }⟩
  exact (same.precedes_iff e.1 e.2).mpr (circuit.among e mem)

/-- A search that walks into a dead end first, and then over two edges into a cycle, lists the cycle
alone; so it does when an edge leads back to its own node. -/
theorem new?_lists_circuit_behind_tail :
    let node : UpgradeNode := { kind := .speedBoost, level := 1, cost := 5 }
    let edges : List (Int × Int) := [(0, 1), (0, 2), (2, 3), (3, 4), (4, 3), (3, 3)]
    (∃ cycle, new? (List.replicate 5 node) edges [0] = .error (.malformed (.cycle cycle)) ∧
      Circuit (fun a b => Precedes edges a b) cycle) ∧
      new? (List.replicate 5 node) edges [0] = .error (.malformed (.cycle [(3, 4), (4, 3)])) ∧
      new? [node, node] [(0, 1), (1, 1)] [0] = .error (.malformed (.cycle [(1, 1)])) := by
  intro node edges
  have circle : ∃ a, Relation.TransGen (Precedes edges) a a :=
    ⟨3, .single (show (3, 3) ∈ edges by decide)⟩
  refine ⟨new?_lists_circuit (List.replicate 5 node) edges [0] ?_ (by decide) ?_ circle, ?_, ?_⟩
  · decide
  · decide
  · cbv
  · cbv

end UpgradeGraph

end RobotWorkshop
