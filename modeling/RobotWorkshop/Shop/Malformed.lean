import RobotWorkshop.Text.Listing
import RobotWorkshop.Text.Wording

/-!
Why a set of upgrades, prerequisites and roots is not an unlock tree.  Like a refusal, such a fault
has its text from the start (`Fault.ofMalformed`).  There are never so many nodes that the index of
one could not be written.
-/

namespace RobotWorkshop

/-- A prerequisite: the first upgrade comes before the second. -/
abbrev Edge := Nat × Nat

/-- The faults of an unlock tree. -/
inductive Malformed where
  | dangling (source target : Int)
  | noRoot
  | missingRoot (root : Int)
  | rootWithPrerequisites (root : Int)
  | cycle (edges : List Edge)
  /-- There is a cycle, and the search found none. -/
  | unfoundCycle
  | unreachable (nodes : List Nat)
deriving DecidableEq, Repr

def Malformed.wording : Malformed → Wording
  | .dangling source target => ["edge ", source, "->", target, " references a missing node"]
  | .noRoot => ["upgrade graph needs at least one root"]
  | .missingRoot root => ["root ", root, " is not a node"]
  | .rootWithPrerequisites root => [s!"root {root} has prerequisites"]
  | .cycle edges =>
    ["upgrade graph has a cycle: ", listing (edges.map fun e => pairText e.1 e.2)]
  | .unfoundCycle => ["No cycle found."]
  | .unreachable nodes =>
    ["upgrade nodes unreachable from any root: ", listing (nodes.map toString)]

def Malformed.message (cause : Malformed) : String := cause.wording.text

end RobotWorkshop
