import RobotWorkshop.Shop.Malformed

/-!
Looking for a cycle, in a fixed order so that the same edges always show the same cycle.

From one node after another all edges are walked depth first (`depthFirst`).  The walk is turned
into a path: when it jumps back, edges are dropped from the path until it ends where the next edge
begins (`Trail.backTo`).  An edge whose head lies on the path closes a cycle.
-/

namespace RobotWorkshop

/-- The edges met by walking depth first from the node on top of the stack, each edge once.  Of
the edges that leave one node the earlier in the list is taken first. -/
def depthFirst (pending : List Edge) : (stack : List Nat) → List Edge
  | [] => []
  | node :: stack =>
    match _found : pending.find? (·.1 = node) with
    | none => depthFirst pending stack
    | some e => e :: depthFirst (pending.eraseP (·.1 = node)) (e.2 :: node :: stack)
termination_by stack => (pending.length, stack.length)
decreasing_by
  · exact Prod.Lex.right _ (by simp)
  · refine Prod.Lex.left _ _ ?_
    have member := List.mem_of_find?_eq_some _found
    have := List.length_eraseP_of_mem member (List.find?_some _found)
    have := List.length_pos_of_mem member
    omega

/-- Where a search stands. -/
structure Trail where
  /-- The edges of the current path, the last one first. -/
  path : List Edge := []
  /-- The nodes on the current path. -/
  active : List Nat
  /-- The nodes met since the start. -/
  seen : List Nat
  /-- The head of the last edge that was added. -/
  latest : Option Nat := none

namespace Trail

/-- A search that begins at a node. -/
def startAt (node : Nat) : Trail := { active := [node], seen := [node] }

/-- Drops edges from the end of a path until it ends at `tail`.  A path that is used up starts
over at `tail`. -/
def shorten (tail : Nat) : List Edge → List Nat → List Edge × List Nat
  | [], _ => ([], [tail])
  | [_], _ => ([], [tail])
  | e :: previous :: path, active =>
    if previous.2 = tail then (previous :: path, active.erase e.2)
    else shorten tail (previous :: path) (active.erase e.2)

/-- Goes back to `tail` when the last edge did not end there. -/
def backTo (t : Trail) (tail : Nat) : Trail :=
  if t.latest.any (· ≠ tail) then
    let (path, active) := shorten tail t.path t.active
    { t with path, active }
  else t

/-- Follows the edges of a walk.  The answer is the path that closes a cycle, its last edge first,
or all nodes that were met. -/
def follow (explored : List Nat) : List Edge → Trail → List Edge ⊕ List Nat
  | [], t => .inr t.seen
  | e :: edges, t =>
    if e.2 ∈ explored then follow explored edges t
    else
      let t := t.backTo e.1
      if e.2 ∈ t.active then .inl (e :: t.path)
      else follow explored edges
        { path := e :: t.path, active := e.2 :: t.active, seen := e.2 :: t.seen, latest := some e.2 }

end Trail

/-- Searches from each of the nodes that no earlier search has met. -/
def searchFrom (edges : List Edge) (explored : List Nat) : List Nat → Option (List Edge)
  | [] => none
  | node :: nodes =>
    if node ∈ explored then searchFrom edges explored nodes
    else match Trail.follow explored (depthFirst edges [node]) (.startAt node) with
      | .inl path => some path
      | .inr seen => searchFrom edges (explored ++ seen) nodes

/-- A cycle along the edges between the first `size` nodes, if there is one: the path of the
search without the edges that lead up to the cycle. -/
def findCycle? (size : Nat) (edges : List Edge) : Option (List Edge) :=
  (searchFrom edges [] (List.range size)).map fun path =>
    let last := path.head?.map (·.2)
    path.reverse.dropWhile fun e => some e.1 ≠ last

end RobotWorkshop
