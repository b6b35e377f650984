import RobotWorkshop.Proofs.CycleSearch

/-!
What the constructor of an unlock tree admits.  Nodes, edges and roots make a tree exactly when they
are a directed acyclic graph in which every node can be reached from the roots and nothing leads to
these (`RootedDag`); the constructor turns down all else with the first fault it comes to, in the
order

    an end of an edge missing, no root, a root missing or not first, a cycle, nodes out of reach

(`UpgradeGraph.judged_iff_writable`).  A fault has its text from the start, so an edge or a root of
too many digits to be written is not told but makes another fault.  It reads edges and roots as
indices of nodes first, so there are two graphs: the one that is given, over integers, and the one
that is kept, over indices.  They have the same circles and the same paths (`Kept.circle_iff`,
`Kept.path_iff`), and on the one that is kept

    i ∈ reachable roots edges  ↔  some root has a path to i                       (mem_reachable_iff)
-/

namespace RobotWorkshop

/-! ## The first failure in a list -/

section
variable {ε α β : Type} {bad : α → Prop} [DecidablePred bad]

/-- A fold whose steps fail at bad items, whatever came before, fails at the first of these. -/
theorem foldlM_of_find? {f : β → α → Except ε β} (fault : α → ε)
    (fails : ∀ b a, bad a → f b a = .error (fault a)) (goes : ∀ b a, ¬bad a → ∃ b', f b a = .ok b')
    (as : List α) (b : β) :
    (∀ a, as.find? (bad ·) = some a → as.foldlM f b = .error (fault a)) ∧
      (as.find? (bad ·) = none → ∃ c, as.foldlM f b = .ok c) := by
  induction as generalizing b with
  | nil => exact ⟨fun a found => (nomatch found), fun _ => ⟨b, rfl⟩⟩
  | cons a as ih =>
    rw [List.foldlM_cons, List.find?_cons]
    by_cases here : bad a
    · rw [fails b a here, decide_eq_true here]
      refine ⟨fun a' found => ?_, fun none_found => nomatch none_found⟩
      rw [← Option.some.inj found]
      rfl
    · obtain ⟨b', stepped⟩ := goes b a here
      rw [stepped, decide_eq_false here]
      exact ih b'

/-- A list that is read item by item fails at the first bad item. -/
theorem mapM_of_find? {f : α → Except ε β} (fault : α → ε)
    (fails : ∀ a, bad a → f a = .error (fault a)) (goes : ∀ a, ¬bad a → ∃ b, f a = .ok b)
    (as : List α) :
    (∀ a, as.find? (bad ·) = some a → as.mapM f = .error (fault a)) ∧
      (as.find? (bad ·) = none → ∃ bs, as.mapM f = .ok bs) := by
  induction as with
  | nil => exact ⟨fun a found => (nomatch found), fun _ => ⟨[], rfl⟩⟩
  | cons a as ih =>
    obtain ⟨failing, reading⟩ := ih
    rw [List.mapM_cons, List.find?_cons]
    by_cases here : bad a
    · rw [fails a here, decide_eq_true here]
      refine ⟨fun a' found => ?_, fun none_found => nomatch none_found⟩
      rw [← Option.some.inj found]
      rfl
    · obtain ⟨b, read⟩ := goes a here
      rw [read, decide_eq_false here]
      constructor
      · intro a' found
        rw [show as.mapM f = .error (fault a') from failing a' found]
        rfl
      · intro none_found
        obtain ⟨bs, others⟩ := reading none_found
        rw [others]
        exact ⟨b :: bs, rfl⟩

end

/-! ## What can be reached -/

section
variable {reached : List Nat} {edges : List Edge} {i : Nat}

theorem mem_beyond {e : Edge} : e ∈ beyond reached edges ↔ e ∈ edges ∧ e.1 ∉ reached := by
  simp [beyond]

/-- **One round.**  What the edges that leave the reached nodes lead to is reached now, and then the
paths that are left do without these edges. -/
theorem path_beyond_iff :
    (∃ r ∈ reached ++ (edges.filter (·.1 ∈ reached)).map (·.2),
        Relation.ReflTransGen (Leads (beyond reached edges)) r i) ↔
      ∃ r ∈ reached, Relation.ReflTransGen (Leads edges) r i := by
  constructor
  · rintro ⟨r, mem, path⟩
    have path' : Relation.ReflTransGen (Leads edges) r i :=
      Relation.ReflTransGen.mono (fun a b edge => (mem_beyond.mp edge).1) r i path
    rcases List.mem_append.mp mem with before | head
    · exact ⟨r, before, path'⟩
    · obtain ⟨⟨p, r⟩, edge, rfl⟩ := List.mem_map.mp head
      obtain ⟨edge, tail⟩ := List.mem_filter.mp edge
      exact ⟨p, by simpa using tail, .head edge path'⟩
  · rintro ⟨r, mem, path⟩
    -- the last reached node on the path leads to a node that is reached now
    induction path with
    | refl => exact ⟨r, List.mem_append_left _ mem, .refl⟩
    | @tail p i _ edge ih =>
      by_cases here : p ∈ reached
      · refine ⟨i, List.mem_append_right _ (List.mem_map.mpr ⟨(p, i), ?_, rfl⟩), .refl⟩
        exact List.mem_filter.mpr ⟨edge, by simpa using here⟩
      · obtain ⟨r', mem', path'⟩ := ih
        exact ⟨r', mem', path'.tail (mem_beyond.mpr ⟨edge, here⟩)⟩

/-- Where no edge leaves the reached nodes, no path does. -/
theorem path_iff_of_closed (closed : beyond reached edges = edges) :
    (∃ r ∈ reached, Relation.ReflTransGen (Leads edges) r i) ↔ i ∈ reached := by
  constructor
  · rintro ⟨r, mem, path⟩
    rcases Relation.ReflTransGen.cases_head path with rfl | ⟨c, edge, -⟩
    · exact mem
    · have stays : (r, c) ∈ beyond reached edges := by
        rw [closed]
        exact edge
      exact absurd mem (mem_beyond.mp stays).2
  · exact fun mem => ⟨i, mem, .refl⟩

/-- **What is reached** is what the paths from the given nodes lead to. -/
theorem mem_reachable_iff :
    i ∈ reachable reached edges ↔ ∃ r ∈ reached, Relation.ReflTransGen (Leads edges) r i := by
  -- each round leaves fewer edges
  induction count : edges.length using Nat.strongRecOn generalizing reached edges with
  | _ n ih =>
    subst count
    by_cases fewer : (beyond reached edges).length < edges.length
    · rw [reachable, if_pos fewer, ih _ fewer rfl]
      exact path_beyond_iff
    · have closed : beyond reached edges = edges :=
        List.filter_sublist.eq_of_length_le (Nat.le_of_not_lt fewer)
      rw [reachable, if_neg fewer]
      exact (path_iff_of_closed closed).symm

end

/-! ## Rooted acyclic graphs -/

/-- The integer is the index of one of so many nodes. -/
def IsNode (size : Nat) (i : Int) : Prop := 0 ≤ i ∧ i < size

/-- One end of the edge is no node. -/
def Dangles (size : Nat) (e : Int × Int) : Prop := ¬(IsNode size e.1 ∧ IsNode size e.2)

/-- The root is no node, or an edge leads to it. -/
def Unfit (size : Nat) (edges : List (Int × Int)) (root : Int) : Prop :=
  ¬IsNode size root ∨ ∃ e ∈ edges, e.2 = root

instance (size : Nat) (i : Int) : Decidable (IsNode size i) :=
  inferInstanceAs (Decidable (0 ≤ i ∧ i < size))

instance (size : Nat) (e : Int × Int) : Decidable (Dangles size e) :=
  inferInstanceAs (Decidable (¬(IsNode size e.1 ∧ IsNode size e.2)))

instance (size : Nat) (edges : List (Int × Int)) (root : Int) : Decidable (Unfit size edges root) :=
  inferInstanceAs (Decidable (¬IsNode size root ∨ ∃ e ∈ edges, e.2 = root))

/-- An edge that is given leads from the one to the other. -/
def Precedes (edges : List (Int × Int)) (a b : Int) : Prop := (a, b) ∈ edges

/-- A path along the edges, perhaps of no edge at all, leads from one of the roots to the node. -/
def Reaches (edges : List (Int × Int)) (roots : List Int) (i : Int) : Prop :=
  ∃ r ∈ roots, Relation.ReflTransGen (Precedes edges) r i

/-- The edges join nodes and run in no circle, the roots are nodes that nothing leads to, and every
node can be reached from one of them. -/
structure RootedDag (size : Nat) (edges : List (Int × Int)) (roots : List Int) : Prop where
  edges_inside : ∀ a b, (a, b) ∈ edges → IsNode size a ∧ IsNode size b
  some_root : roots ≠ []
  roots_inside : ∀ r ∈ roots, IsNode size r
  roots_first : ∀ r ∈ roots, ∀ a, (a, r) ∉ edges
  acyclic : ∀ a, ¬Relation.TransGen (Precedes edges) a a
  reached : ∀ i, IsNode size i → Reaches edges roots i

/-- **The first fault** of nodes, edges and roots, if they make no tree.  Each fault presupposes
that there is none of those above it; of edges and of roots the first that is at fault counts, and
of the nodes out of reach all do, in ascending order. -/
def FirstFault (size : Nat) (edges : List (Int × Int)) (roots : List Int) : Malformed → Prop
  | .dangling source target => edges.find? (Dangles size ·) = some (source, target)
  | .noRoot => (∀ e ∈ edges, ¬Dangles size e) ∧ roots = []
  | .missingRoot root =>
    (∀ e ∈ edges, ¬Dangles size e) ∧ roots.find? (Unfit size edges ·) = some root ∧
      ¬IsNode size root
  | .rootWithPrerequisites root =>
    (∀ e ∈ edges, ¬Dangles size e) ∧ roots.find? (Unfit size edges ·) = some root ∧
      IsNode size root
  | .cycle _ =>
    (∀ e ∈ edges, ¬Dangles size e) ∧ roots ≠ [] ∧ (∀ r ∈ roots, ¬Unfit size edges r) ∧
      ∃ a, Relation.TransGen (Precedes edges) a a
  | .unreachable out =>
    (∀ e ∈ edges, ¬Dangles size e) ∧ roots ≠ [] ∧ (∀ r ∈ roots, ¬Unfit size edges r) ∧
      (∀ a, ¬Relation.TransGen (Precedes edges) a a) ∧
      out ≠ [] ∧ out.Pairwise (· < ·) ∧ ∀ i : Nat, i ∈ out ↔ i < size ∧ ¬Reaches edges roots i
  -- the search for a cycle is made only when there is one, and finds it
  | .unfoundCycle => False

section
variable {size : Nat} {edges : List (Int × Int)} {roots : List Int}

theorem RootedDag.not_dangles (h : RootedDag size edges roots) : ∀ e ∈ edges, ¬Dangles size e :=
  fun e mem => not_not.mpr (h.edges_inside e.1 e.2 mem)

theorem RootedDag.not_unfit (h : RootedDag size edges roots) : ∀ r ∈ roots, ¬Unfit size edges r := by
  rintro r mem (outside | ⟨⟨a, b⟩, edge, rfl⟩)
  · exact outside (h.roots_inside r mem)
  · exact h.roots_first b mem a edge

/-- **Every input** makes a tree or has a first fault. -/
theorem rootedDag_or_firstFault (size : Nat) (edges : List (Int × Int)) (roots : List Int) :
    RootedDag size edges roots ∨ ∃ m, FirstFault size edges roots m := by
  cases dangling : edges.find? (Dangles size ·) with
  | some e => exact .inr ⟨.dangling e.1 e.2, dangling⟩
  | none =>
    have inside : ∀ e ∈ edges, ¬Dangles size e := by simpa using dangling
    by_cases some_root : roots = []
    · exact .inr ⟨.noRoot, inside, some_root⟩
    cases unfit : roots.find? (Unfit size edges ·) with
    | some root =>
      by_cases node : IsNode size root
      · exact .inr ⟨.rootWithPrerequisites root, inside, unfit, node⟩
      · exact .inr ⟨.missingRoot root, inside, unfit, node⟩
    | none =>
      have fit : ∀ r ∈ roots, ¬Unfit size edges r := by simpa using unfit
      by_cases circle : ∃ a, Relation.TransGen (Precedes edges) a a
      · exact .inr ⟨.cycle [], inside, some_root, fit, circle⟩
      have acyclic : ∀ a, ¬Relation.TransGen (Precedes edges) a a := not_exists.mp circle
      by_cases reached : ∀ i, IsNode size i → Reaches edges roots i
      · left
        exact {
          edges_inside := fun a b mem => not_not.mp (inside (a, b) mem)
          some_root
          roots_inside := fun r mem => by_contra fun outside => fit r mem (.inl outside)
          roots_first := fun r mem a edge => fit r mem (.inr ⟨(a, r), edge, rfl⟩)
          acyclic
          reached }
      · right
        classical
        let out := (List.range size).filter fun i : Nat => ¬Reaches edges roots i
        have mem_out : ∀ i : Nat, i ∈ out ↔ i < size ∧ ¬Reaches edges roots i := by simp [out]
        refine ⟨.unreachable out, inside, some_root, fit, acyclic, ?_,
          List.pairwise_lt_range.filter _, mem_out⟩
        intro nothing
        refine reached fun i node => ?_
        obtain ⟨n, rfl⟩ := Int.eq_ofNat_of_zero_le node.1
        by_contra out_of_reach
        have mem : n ∈ out := (mem_out n).mpr ⟨Int.ofNat_lt.mp node.2, out_of_reach⟩
        rw [nothing] at mem
        cases mem

end

/-! ## The edges that are given and those that are kept -/

/-- The kept edges are the given ones. -/
def Kept (edges : List (Int × Int)) (kept : List Edge) : Prop :=
  ∀ a b : Int, (a, b) ∈ edges ↔ ∃ p i : Nat, (p, i) ∈ kept ∧ a = p ∧ b = i

namespace Kept

variable {edges : List (Int × Int)} {kept : List Edge}

theorem precedes_iff (h : Kept edges kept) (p i : Nat) : Precedes edges p i ↔ Leads kept p i :=
  UpgradeGraph.HasEdges.mem_iff (g := ⟨[], kept, []⟩) h p i

/-- What a path of given edges leads to from a node is a node, and the kept edges lead there too. -/
theorem path_kept (h : Kept edges kept) {p : Nat} {b : Int}
    (path : Relation.ReflTransGen (Precedes edges) p b) :
    ∃ i : Nat, b = i ∧ Relation.ReflTransGen (Leads kept) p i := by
  induction path with
  | refl => exact ⟨p, rfl, .refl⟩
  | tail _ edge ih =>
    obtain ⟨q, rfl, path'⟩ := ih
    obtain ⟨q', i, mem, same, rfl⟩ := (h _ _).mp edge
    obtain rfl := Int.ofNat.inj same
    exact ⟨i, rfl, path'.tail mem⟩

theorem path_iff (h : Kept edges kept) (p i : Nat) :
    Relation.ReflTransGen (Precedes edges) p i ↔ Relation.ReflTransGen (Leads kept) p i := by
  constructor
  · intro path
    obtain ⟨i', same, path'⟩ := h.path_kept path
    rwa [Int.ofNat.inj same]
  · intro path
    exact Relation.ReflTransGen.lift (fun n : Nat => (n : Int))
      (fun a b edge => (h.precedes_iff a b).mpr edge) p i path

theorem circle_iff (h : Kept edges kept) :
    (∃ a, Relation.TransGen (Precedes edges) a a) ↔ ∃ n, Relation.TransGen (Leads kept) n n := by
  constructor
  · rintro ⟨a, circle⟩
    -- its first edge starts at a node
    obtain ⟨b, edge, path⟩ := Relation.TransGen.head'_iff.mp circle
    obtain ⟨p, i, mem, rfl, rfl⟩ := (h _ _).mp edge
    exact ⟨p, Relation.TransGen.head' mem ((h.path_iff i p).mp path)⟩
  · rintro ⟨n, circle⟩
    exact ⟨n, Relation.TransGen.lift (fun n : Nat => (n : Int))
      (fun a b edge => (h.precedes_iff a b).mpr edge) n n circle⟩

/-- An edge that is given leads to the node if a kept one does. -/
theorem headed_iff (h : Kept edges kept) (n : Nat) :
    kept.any (·.2 = n) = true ↔ ∃ e ∈ edges, e.2 = (n : Int) := by
  simp only [List.any_eq_true, decide_eq_true_eq]
  constructor
  · rintro ⟨⟨p, i⟩, mem, rfl⟩
    exact ⟨(p, i), (h _ _).mpr ⟨p, i, mem, rfl, rfl⟩, rfl⟩
  · rintro ⟨⟨a, b⟩, mem, rfl⟩
    obtain ⟨p, i, mem', -, same⟩ := (h _ _).mp mem
    exact ⟨(p, i), mem', (Int.ofNat.inj same).symm⟩

theorem isAcyclic_iff_given (h : Kept edges kept) :
    isAcyclic kept = true ↔ ∀ a, ¬Relation.TransGen (Precedes edges) a a := by
  rw [isAcyclic_iff, ← not_exists, ← not_exists, h.circle_iff]

end Kept

namespace UpgradeGraph

variable {size : Nat} {edges : List (Int × Int)} {kept : List Edge} {roots : List Int}

/-! ## The checks, one by one -/

theorem nodeIndex?_of_isNode {i : Int} (h : IsNode size i) : nodeIndex? size i = some i.toNat :=
  if_pos h

theorem nodeIndex?_of_not_isNode {i : Int} (h : ¬IsNode size i) : nodeIndex? size i = none :=
  if_neg h

/-- The first edge with an end missing is reported. -/
theorem checkEdges_of_find? (size : Nat) (edges : List (Int × Int)) :
    (∀ e, edges.find? (Dangles size ·) = some e →
        checkEdges size edges = .error (.dangling e.1 e.2)) ∧
      (edges.find? (Dangles size ·) = none → ∃ kept, checkEdges size edges = .ok kept) := by
  refine foldlM_of_find? (fun e : Int × Int => Malformed.dangling e.1 e.2) ?_ ?_ edges []
  · rintro checked ⟨source, target⟩ dangles
    by_cases tail : IsNode size source
    · have head : ¬IsNode size target := fun head => dangles ⟨tail, head⟩
      simp only [nodeIndex?_of_isNode tail, nodeIndex?_of_not_isNode head]
    · simp only [nodeIndex?_of_not_isNode tail]
  · rintro checked ⟨source, target⟩ inside
    obtain ⟨tail, head⟩ := not_not.mp inside
    simp only [nodeIndex?_of_isNode tail, nodeIndex?_of_isNode head]
    exact ⟨_, rfl⟩

/-- The fault of a root that is unfit. -/
def rootFault (size : Nat) (root : Int) : Malformed :=
  if IsNode size root then .rootWithPrerequisites root else .missingRoot root

/-- The first unfit root is reported. -/
theorem checkRoots_of_find? (same : Kept edges kept) (roots : List Int) :
    (∀ r, roots.find? (Unfit size edges ·) = some r →
        checkRoots size kept roots = .error (rootFault size r)) ∧
      (roots.find? (Unfit size edges ·) = none →
        ∃ firsts, checkRoots size kept roots = .ok firsts) := by
  refine mapM_of_find? (rootFault size) ?_ ?_ roots
  · intro root unfit
    unfold rootFault
    by_cases inside : IsNode size root
    · obtain ⟨n, rfl⟩ := Int.eq_ofNat_of_zero_le inside.1
      have found : kept.any (·.2 = n) = true :=
        (same.headed_iff n).mpr (unfit.resolve_left (not_not.mpr inside))
      simp only [nodeIndex?_of_isNode inside, Int.toNat_natCast, found, if_true, inside]
    · simp only [nodeIndex?_of_not_isNode inside, inside, if_false]
  · intro root fit
    obtain ⟨inside, headless⟩ := not_or.mp fit
    have inside := not_not.mp inside
    obtain ⟨n, rfl⟩ := Int.eq_ofNat_of_zero_le inside.1
    have found : ¬kept.any (·.2 = n) = true := fun found => headless ((same.headed_iff n).mp found)
    simp only [nodeIndex?_of_isNode inside, Int.toNat_natCast, found]
    exact ⟨_, rfl⟩

/-- The nodes that are not reached, in ascending order. -/
def unreached (size : Nat) (edges : List Edge) (roots : List Nat) : List Nat :=
  (List.range size).filter (· ∉ reachable roots edges)

theorem mem_unreached_iff (same : Kept edges kept) (firsts : List Nat) (i : Nat) :
    i ∈ unreached size kept firsts ↔
      i < size ∧ ¬Reaches edges (firsts.map fun r : Nat => (r : Int)) i := by
  have reached :
      Reaches edges (firsts.map fun r : Nat => (r : Int)) i ↔ i ∈ reachable firsts kept := by
    rw [mem_reachable_iff]
    unfold Reaches
    simp only [List.mem_map]
    constructor
    · rintro ⟨_, ⟨r, mem, rfl⟩, path⟩
      exact ⟨r, mem, (same.path_iff r i).mp path⟩
    · rintro ⟨r, mem, path⟩
      exact ⟨r, ⟨r, mem, rfl⟩, (same.path_iff r i).mpr path⟩
  rw [reached]
  simp [unreached]

theorem checkPaths_of_circle (firsts : List Nat)
    (inside : ∀ p i, (p, i) ∈ kept → p < size ∧ i < size) (cyclic : isAcyclic kept = false) :
    ∃ cycle, checkPaths size kept firsts = .error (.cycle cycle) := by
  obtain ⟨cycle, found⟩ := Option.isSome_iff_exists.mp (isSome_findCycle? inside cyclic)
  unfold checkPaths
  simp only [cyclic, found]
  exact ⟨cycle, rfl⟩

theorem checkPaths_of_acyclic {firsts : List Nat} (acyclic : isAcyclic kept = true) :
    checkPaths size kept firsts =
      if unreached size kept firsts = [] then .ok ()
      else .error (.unreachable (unreached size kept firsts)) := by
  unfold checkPaths unreached
  simp only [acyclic]
  cases (List.range size).filter (· ∉ reachable firsts kept) with
  | nil => rfl
  | cons i rest => rfl

/-! ## The constructor -/

variable {nodes : List UpgradeNode}

theorem checked?_of_dangling {e : Int × Int}
    (found : edges.find? (Dangles nodes.length ·) = some e) :
    checked? nodes edges roots = .error (.dangling e.1 e.2) := by
  unfold checked?
  rw [(checkEdges_of_find? nodes.length edges).1 e found]

theorem checked?_of_noRoot (inside : ∀ e ∈ edges, ¬Dangles nodes.length e) (nothing : roots = []) :
    checked? nodes edges roots = .error .noRoot := by
  obtain ⟨kept, checked⟩ := (checkEdges_of_find? nodes.length edges).2 (by simpa using inside)
  subst nothing
  unfold checked?
  rw [checked]
  rfl

theorem checked?_of_unfit {root : Int} (inside : ∀ e ∈ edges, ¬Dangles nodes.length e)
    (found : roots.find? (Unfit nodes.length edges ·) = some root) :
    checked? nodes edges roots = .error (rootFault nodes.length root) := by
  obtain ⟨kept, checked⟩ := (checkEdges_of_find? nodes.length edges).2 (by simpa using inside)
  have same : Kept edges kept := (checkEdges_eq_ok checked).1
  have some_root : roots.isEmpty = false := by
    cases roots with
    | nil => cases found
    | cons r rest => rfl
  unfold checked?
  rw [checked]
  simp only [some_root, (checkRoots_of_find? same roots).1 root found]
  rfl

/-- With edges and roots in order, the paths decide. -/
theorem checked?_of_founded (inside : ∀ e ∈ edges, ¬Dangles nodes.length e) (some_root : roots ≠ [])
    (fit : ∀ r ∈ roots, ¬Unfit nodes.length edges r) :
    ∃ kept firsts, Kept edges kept ∧
      (∀ p i, (p, i) ∈ kept → p < nodes.length ∧ i < nodes.length) ∧
      roots = firsts.map (fun r : Nat => (r : Int)) ∧
      checked? nodes edges roots = (checkPaths nodes.length kept firsts).map fun () =>
        { nodes, edges := kept, roots := firsts } := by
  obtain ⟨kept, checked⟩ := (checkEdges_of_find? nodes.length edges).2 (by simpa using inside)
  obtain ⟨same, kept_inside⟩ := checkEdges_eq_ok checked
  obtain ⟨firsts, rooted⟩ := (checkRoots_of_find? same roots).2 (by simpa using fit)
  refine ⟨kept, firsts, same, kept_inside, (checkRoots_eq_ok rooted).1, ?_⟩
  unfold checked?
  rw [checked]
  simp only [List.isEmpty_iff, some_root, rooted]
  cases checkPaths nodes.length kept firsts with
  | error m => rfl
  | ok answer => rfl

theorem checked?_of_rootedDag (h : RootedDag nodes.length edges roots) :
    ∃ g, checked? nodes edges roots = .ok g := by
  obtain ⟨kept, firsts, same, -, roots_eq, made⟩ :=
    checked?_of_founded h.not_dangles h.some_root h.not_unfit
  have all : unreached nodes.length kept firsts = [] := by
    rw [List.eq_nil_iff_forall_not_mem]
    intro i mem
    obtain ⟨i_lt, out⟩ := (mem_unreached_iff same firsts i).mp mem
    rw [← roots_eq] at out
    exact out (h.reached i ⟨Int.natCast_nonneg i, Int.ofNat_lt.mpr i_lt⟩)
  rw [checkPaths_of_acyclic (same.isAcyclic_iff_given.mpr h.acyclic), if_pos all] at made
  exact ⟨_, made⟩

/-- **The first fault is reported**, a cycle as some cycle. -/
theorem checked?_of_firstFault {m : Malformed} (h : FirstFault nodes.length edges roots m) :
    ∃ m', checked? nodes edges roots = .error m' ∧
      (m' = m ∨ ∃ cycle cycle', m = .cycle cycle ∧ m' = .cycle cycle') := by
  cases m with
  | dangling source target => exact ⟨_, checked?_of_dangling h, .inl rfl⟩
  | noRoot => exact ⟨_, checked?_of_noRoot h.1 h.2, .inl rfl⟩
  | missingRoot root =>
    obtain ⟨inside, found, outside⟩ := h
    exact ⟨_, checked?_of_unfit inside found, .inl (if_neg outside)⟩
  | rootWithPrerequisites root =>
    obtain ⟨inside, found, node⟩ := h
    exact ⟨_, checked?_of_unfit inside found, .inl (if_pos node)⟩
  | cycle cycle =>
    obtain ⟨inside, some_root, fit, circle⟩ := h
    obtain ⟨kept, firsts, same, kept_inside, -, made⟩ := checked?_of_founded inside some_root fit
    have cyclic : isAcyclic kept = false := by
      rw [Bool.eq_false_iff, ne_eq, same.isAcyclic_iff_given]
      exact not_forall_not.mpr circle
    obtain ⟨cycle', found⟩ := checkPaths_of_circle firsts kept_inside cyclic
    rw [found] at made
    exact ⟨_, made, .inr ⟨cycle, cycle', rfl, rfl⟩⟩
  | unreachable out =>
    obtain ⟨inside, some_root, fit, acyclic, some_out, ascending, mem_out⟩ := h
    obtain ⟨kept, firsts, same, -, roots_eq, made⟩ := checked?_of_founded inside some_root fit
    have listed : unreached nodes.length kept firsts = out := by
      refine (List.pairwise_lt_range.filter _).eq_of_mem_iff ascending fun i => ?_
      rw [mem_out, roots_eq]
      exact mem_unreached_iff same firsts i
    rw [checkPaths_of_acyclic (same.isAcyclic_iff_given.mpr acyclic), listed, if_neg some_out] at made
    exact ⟨_, made, .inl rfl⟩
  | unfoundCycle => exact h.elim

/-- **What the constructor says of a first fault**, a cycle being told as some cycle: it says that
fault, if the fault has a text, and else that a number is too long. -/
theorem new?_of_firstFault {m : Malformed} (h : FirstFault nodes.length edges roots m) :
    ∃ m', new? nodes edges roots = .error (.ofMalformed m') ∧
      m'.wording.isWritable = m.wording.isWritable ∧
      (m' = m ∨ ∃ cycle cycle', m = .cycle cycle ∧ m' = .cycle cycle') := by
  obtain ⟨m', failed, same⟩ := checked?_of_firstFault h
  refine ⟨m', new?_of_checked?_error failed, ?_, same⟩
  rcases same with rfl | ⟨cycle, cycle', rfl, rfl⟩
  · rfl
  · rfl

theorem new?_ok_iff_rootedDag (nodes : List UpgradeNode) (edges : List (Int × Int))
    (roots : List Int) :
    (∃ g, new? nodes edges roots = .ok g) ↔ RootedDag nodes.length edges roots := by
  simp only [new?_eq_ok_iff]
  refine ⟨?_, checked?_of_rootedDag⟩
  rintro ⟨g, made⟩
  rcases rootedDag_or_firstFault nodes.length edges roots with dag | ⟨m, fault⟩
  · exact dag
  · obtain ⟨m', failed, -⟩ := checked?_of_firstFault fault
    rw [made] at failed
    cases failed

/-- An input is judged as it should be: it makes a tree if it is a rooted acyclic graph, and else
its first fault is reported, a cycle as some cycle. -/
structure Judged (nodes : List UpgradeNode) (edges : List (Int × Int)) (roots : List Int) : Prop where
  admits : (∃ g, new? nodes edges roots = .ok g) ↔ RootedDag nodes.length edges roots
  reports : ∀ m, FirstFault nodes.length edges roots m →
    ∃ m', new? nodes edges roots = .error (.malformed m') ∧
      (m' = m ∨ ∃ cycle cycle', m = .cycle cycle ∧ m' = .cycle cycle')

/-- **Exactly the rooted acyclic graphs are admitted.**  For all else the first fault is reported,
just if it can be put into words; if it shows an integer of too many digits, then that is the fault
that is raised.  Nothing else is ever raised. -/
theorem judged_iff_writable (nodes : List UpgradeNode) (edges : List (Int × Int)) (roots : List Int) :
    (Judged nodes edges roots ↔
      ∀ m, FirstFault nodes.length edges roots m → m.wording.isWritable = true) ∧
    ((∃ g, new? nodes edges roots = .ok g) ↔ RootedDag nodes.length edges roots) ∧
    (∀ m, FirstFault nodes.length edges roots m → m.wording.isWritable = false →
      new? nodes edges roots = .error .numberTooLong) ∧
    (∀ fault, new? nodes edges roots = .error fault → ∃ m, FirstFault nodes.length edges roots m ∧
      fault = if m.wording.isWritable then .malformed m else .numberTooLong) := by
  have admits := new?_ok_iff_rootedDag nodes edges roots
  have untold (m : Malformed) (first : FirstFault nodes.length edges roots m)
      (long : m.wording.isWritable = false) : new? nodes edges roots = .error .numberTooLong := by
    obtain ⟨m', failed, same, -⟩ := new?_of_firstFault first
    rw [failed, Fault.ofMalformed, same, long]
    rfl
  refine ⟨⟨fun judged m first => ?_, fun writable => ⟨admits, fun m first => ?_⟩⟩, admits, untold,
    fun fault failed => ?_⟩
  · by_contra long
    obtain ⟨m', reported, -⟩ := judged.reports m first
    cases reported.symm.trans (untold m first (by simpa using long))
  · obtain ⟨m', failed, same, told⟩ := new?_of_firstFault first
    rw [Fault.ofMalformed, same, writable m first] at failed
    exact ⟨m', failed, told⟩
  · rcases rootedDag_or_firstFault nodes.length edges roots with dag | ⟨m, first⟩
    · obtain ⟨g, made⟩ := admits.mpr dag
      cases made.symm.trans failed
    · obtain ⟨m', failed', same, told⟩ := new?_of_firstFault first
      obtain rfl := Except.error.inj (failed.symm.trans failed')
      -- of cycles any one will do
      have first' : FirstFault nodes.length edges roots m' := by
        rcases told with rfl | ⟨cycle, cycle', rfl, rfl⟩ <;> exact first
      exact ⟨m', first', rfl⟩

/-- Four nodes: a graph with a repeated edge and a repeated root, one with two nodes out of reach,
and one in which the second edge is the first at fault and hides a missing root. -/
theorem judged_four_nodes :
    let node : UpgradeNode := { kind := .speedBoost, level := 1, cost := 5 }
    let nodes := [node, node, node, node]
    RootedDag 4 [(0, 1), (1, 2), (0, 1)] [0, 3, 0] ∧
      FirstFault 4 [(2, 3), (0, 1)] [0] (.unreachable [2, 3]) ∧
      Judged nodes [(0, 1), (5, -1), (9, 9)] [] := by
  intro node nodes
  have admitted : (new? nodes [(0, 1), (1, 2), (0, 1)] [0, 3, 0]).toOption.isSome = true := by
    decide +kernel
  have refused : new? nodes [(2, 3), (0, 1)] [0] = .error (.malformed (.unreachable [2, 3])) := by
    decide +kernel
  have dangling : List.find? (Dangles 4 ·) [(0, 1), (5, -1), (9, 9)] = some (5, -1) := by decide
  refine ⟨(judged_iff_writable nodes _ _).2.1.mp ?_, ?_,
    (judged_iff_writable nodes [(0, 1), (5, -1), (9, 9)] []).1.mpr fun m first => ?_⟩
  · cases made : new? nodes [(0, 1), (1, 2), (0, 1)] [0, 3, 0] with
    | error m => rw [made] at admitted; cases admitted
    | ok g => exact ⟨g, rfl⟩
  · obtain ⟨m, first, said⟩ := (judged_iff_writable nodes _ _).2.2.2 _ refused
    split at said
    · obtain rfl := Fault.malformed.inj said
      exact first
    · cases said
  · have no_other (inside : ∀ e ∈ [((0 : Int), (1 : Int)), (5, -1), (9, 9)], ¬Dangles 4 e) : False :=
      inside (5, -1) (by decide) (by decide)
    cases m with
    | dangling source target =>
      obtain ⟨rfl, rfl⟩ := Prod.mk.inj (Option.some.inj (dangling.symm.trans first))
      decide +kernel
    | unfoundCycle => exact first.elim
    | _ => exact (no_other first.1).elim

/-- An edge to a node whose index has 4301 digits.  It is the first fault, and what is raised says
nothing of it. -/
theorem long_edge_misjudged :
    let node : UpgradeNode := { kind := .speedBoost, level := 1, cost := 5 }
    let far : Int := Nat.pow 10 mostWrittenDigits
    FirstFault 2 [(0, far)] [0] (.dangling 0 far) ∧
      new? [node, node] [(0, far)] [0] = .error .numberTooLong ∧
      ¬Judged [node, node] [(0, far)] [0] := by
  intro node far
  have first : FirstFault 2 [(0, far)] [0] (.dangling 0 far) := by
    show List.find? (Dangles 2 ·) [(0, far)] = some (0, far)
    decide +kernel
  have raised : new? [node, node] [(0, far)] [0] = .error .numberTooLong := by decide +kernel
  refine ⟨first, raised, fun judged => ?_⟩
  obtain ⟨m, reported, -⟩ := judged.reports _ first
  cases reported.symm.trans raised

end UpgradeGraph

end RobotWorkshop
