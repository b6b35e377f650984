import RobotWorkshop.Shop.Malformed

/-!
Questions about a finite set of prerequisites: whether they run in a circle, and what can be
reached from given nodes.

Both answers come from removal.  An edge whose tail is the head of no edge lies on no cycle;
dropping such edges until nothing more can be dropped leaves an edge exactly when there is a cycle
(`cyclicPart`).  Edges that leave the nodes reached so far are used up, and their heads are
reached (`reachable`).
-/

namespace RobotWorkshop

/-- The edges whose tail is the head of some edge. -/
def continuing (edges : List Edge) : List Edge := edges.filter fun e => edges.any (·.2 = e.1)

/-- The edges that are left when those whose tail has no predecessor are dropped, again and
again. -/
def cyclicPart (edges : List Edge) : List Edge :=
  if (continuing edges).length < edges.length then cyclicPart (continuing edges) else edges
termination_by edges.length

/-- Whether no path along the edges comes back to where it started. -/
def isAcyclic (edges : List Edge) : Bool := (cyclicPart edges).isEmpty

/-- The edges that do not leave the reached nodes. -/
def beyond (reached : List Nat) (edges : List Edge) : List Edge := edges.filter (·.1 ∉ reached)

/-- The nodes that paths from the reached ones lead to, those included. -/
def reachable (reached : List Nat) (edges : List Edge) : List Nat :=
  if (beyond reached edges).length < edges.length then
    reachable (reached ++ (edges.filter (·.1 ∈ reached)).map (·.2)) (beyond reached edges)
  else reached
termination_by edges.length

end RobotWorkshop
