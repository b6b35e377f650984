import RobotWorkshop.Fault
import RobotWorkshop.Journal
import RobotWorkshop.Shop.CycleSearch
import RobotWorkshop.Shop.Prerequisites
import RobotWorkshop.Shop.Wallet

/-!
The unlock tree: upgrades, which of them come before which, and where buying may begin.  An
upgrade is visible when it is a root or everything before it has been bought.
-/

namespace RobotWorkshop

structure UpgradeGraph where
  nodes : List UpgradeNode
  /-- Without repetition, in the order in which they were first given. -/
  edges : List Edge
  roots : List Nat
deriving DecidableEq, Repr

/-- An upgrade that may be bought, as it is offered. -/
structure Offer where
  index : Nat
  node : UpgradeNode
  affordable : Bool
deriving DecidableEq, Repr

/-- Why an upgrade is not bought. -/
inductive Unsold where
  /-- The purchase is refused, which is noted. -/
  | refused (note : Entry)
  | stopped (fault : Fault)

/-- What a purchase leaves behind. -/
structure Sale where
  /-- The upgrade, as bought. -/
  node : UpgradeNode
  /-- The upgrades that may be bought because of it. -/
  revealed : List Nat
  graph : UpgradeGraph
  wallet : Wallet
deriving DecidableEq, Repr

namespace UpgradeGraph

/-! ## Making one -/

/-- An index of one of `size` nodes. -/
def nodeIndex? (size : Nat) (i : Int) : Option Nat :=
  if 0 ≤ i ∧ i < size then some i.toNat else none

/-- Checks the ends of every edge; a repeated edge counts once. -/
def checkEdges (size : Nat) (edges : List (Int × Int)) : Except Malformed (List Edge) :=
  edges.foldlM (fun checked (source, target) =>
    match nodeIndex? size source, nodeIndex? size target with
    | some s, some t => .ok (if (s, t) ∈ checked then checked else checked ++ [(s, t)])
    | _, _ => .error (.dangling source target)) []

/-- Checks that every root is a node without prerequisites. -/
def checkRoots (size : Nat) (edges : List Edge) (roots : List Int) :
    Except Malformed (List Nat) :=
  roots.mapM fun root =>
    match nodeIndex? size root with
    | none => .error (.missingRoot root)
    | some r => if edges.any (·.2 = r) then .error (.rootWithPrerequisites root) else .ok r

/-- Checks that the edges do not run in a circle and that every node can be reached. -/
def checkPaths (size : Nat) (edges : List Edge) (roots : List Nat) : Except Malformed Unit :=
  if !isAcyclic edges then
    match findCycle? size edges with
    | some cycle => .error (.cycle cycle)
    | none => .error .unfoundCycle
  else
    let reached := reachable roots edges
    match (List.range size).filter (· ∉ reached) with
    | [] => .ok ()
    | unreachable => .error (.unreachable unreachable)

/-- The unlock tree of some upgrades, prerequisites and roots, or the first fault in them. -/
def checked? (nodes : List UpgradeNode) (edges : List (Int × Int)) (roots : List Int) :
    Except Malformed UpgradeGraph :=
  match checkEdges nodes.length edges with
  | .error m => .error m
  | .ok edges =>
    if roots.isEmpty then .error .noRoot
    else match checkRoots nodes.length edges roots with
      | .error m => .error m
      | .ok roots =>
        match checkPaths nodes.length edges roots with
        | .error m => .error m
        | .ok () => .ok { nodes, edges, roots }

/-- The unlock tree of some upgrades, prerequisites and roots; the first fault is reported. -/
def new? (nodes : List UpgradeNode) (edges : List (Int × Int)) (roots : List Int) :
    Except Fault UpgradeGraph :=
  (checked? nodes edges roots).mapError .ofMalformed

theorem new?_eq_ok_iff {nodes : List UpgradeNode} {edges : List (Int × Int)} {roots : List Int}
    {g : UpgradeGraph} :
    new? nodes edges roots = .ok g ↔ checked? nodes edges roots = .ok g := by
  unfold new?
  cases checked? nodes edges roots with
  | error cause => exact ⟨nofun, nofun⟩
  | ok made =>
    show (Except.ok made : Except Fault UpgradeGraph) = .ok g ↔ _
    simp only [Except.ok.injEq]

theorem new?_of_checked?_error {nodes : List UpgradeNode} {edges : List (Int × Int)}
    {roots : List Int} {cause : Malformed} (h : checked? nodes edges roots = .error cause) :
    new? nodes edges roots = .error (.ofMalformed cause) := by
  unfold new?
  rw [h]
  rfl

/-! ## Looking at one -/

def size (g : UpgradeGraph) : Nat := g.nodes.length

/-- What a node comes before, in ascending order. -/
def successors (g : UpgradeGraph) (i : Nat) : List Nat :=
  (List.range g.size).filter fun j => (i, j) ∈ g.edges

/-- What comes before a node, in ascending order. -/
def predecessors (g : UpgradeGraph) (i : Nat) : List Nat :=
  (List.range g.size).filter fun j => (j, i) ∈ g.edges

def isPurchased (g : UpgradeGraph) (i : Nat) : Bool := g.nodes[i]?.any (·.purchased)

def isVisible (g : UpgradeGraph) (i : Nat) : Bool :=
  i ∈ g.roots || (g.predecessors i).all g.isPurchased

def isPurchasable (g : UpgradeGraph) (i : Nat) : Bool := g.isVisible i && !g.isPurchased i

/-- Visible upgrades that have not been bought, in ascending order. -/
def revealed (g : UpgradeGraph) : List Nat := (List.range g.size).filter g.isPurchasable

/-- The upgrades that have been bought, in ascending order. -/
def purchased (g : UpgradeGraph) : List Nat := (List.range g.size).filter g.isPurchased

/-- The revealed upgrades and whether a balance suffices for them. -/
def offers (g : UpgradeGraph) (balance : Int) : List Offer :=
  g.revealed.filterMap fun i =>
    g.nodes[i]?.map fun node => { index := i, node, affordable := node.cost ≤ balance }

/-- The node of an index given from outside. -/
def node? (g : UpgradeGraph) (i : Int) : Except Fault Nat :=
  match nodeIndex? g.size i with
  | some j => .ok j
  | none => .error (if isWritable i then .absentNode i else .numberTooLong)

/-! ## Buying -/

/-- The tree with one more upgrade bought. -/
def markPurchased (g : UpgradeGraph) (i : Nat) : UpgradeGraph :=
  { g with nodes := g.nodes.modify i fun node => { node with purchased := true } }

/-- Why an upgrade cannot be bought from a wallet, or what the wallet holds afterwards. -/
def charge? (g : UpgradeGraph) (i : Nat) (node : UpgradeNode) (wallet : Wallet) :
    Except Fault Wallet :=
  if node.purchased then .error (.ofRefusal (.alreadyBought node))
  else if !g.isVisible i then .error (.ofRefusal (.prerequisitesMissing node))
  else wallet.spend? node.cost

theorem charge?_refuses {g : UpgradeGraph} {i : Nat} {node : UpgradeNode} {wallet : Wallet}
    {fault : Fault} (h : g.charge? i node wallet = .error fault) : fault.Refuses := by
  unfold charge? at h
  split at h
  · exact Except.error.inj h ▸ Fault.ofRefusal_refuses _
  · split at h
    · exact Except.error.inj h ▸ Fault.ofRefusal_refuses _
    · exact Wallet.spend?_refuses h

/-- Buys an upgrade.  A refused purchase is noted and changes nothing. -/
def buy? (g : UpgradeGraph) (index : Int) (wallet : Wallet) : Except Unsold Sale :=
  match nodeIndex? g.size index with
  | none => .error (.refused (.unknownUpgrade index))
  | some i =>
    match g.nodes[i]? with
    | none => .error (.refused (.unknownUpgrade index))
    | some node =>
      match g.charge? i node wallet with
      | .error (.refused cause) => .error (.refused (.upgradeRejected index cause))
      | .error fault => .error (.stopped fault)
      | .ok wallet =>
        let graph := g.markPurchased i
        .ok { node, graph, wallet, revealed := (graph.successors i).filter graph.isPurchasable }

/-- Only a refusal that cannot be put into words stops a purchase. -/
theorem buy?_stopped {g : UpgradeGraph} {index : Int} {wallet : Wallet} {fault : Fault}
    (h : g.buy? index wallet = .error (.stopped fault)) : fault = .numberTooLong := by
  unfold buy? at h
  split at h
  · cases h
  · split at h
    · cases h
    · rename_i node _
      cases charged : g.charge? _ node wallet with
      | ok paid => rw [charged] at h; cases h
      | error raised =>
        rw [charged] at h
        rcases charge?_refuses charged with rfl | ⟨cause, rfl⟩
        · exact (Unsold.stopped.inj (Except.error.inj h)).symm
        · cases h

end UpgradeGraph

end RobotWorkshop
