import RobotWorkshop.Yaml.Base64
import RobotWorkshop.Yaml.Node
import RobotWorkshop.Yaml.Number
import RobotWorkshop.Yaml.SetOrder
import RobotWorkshop.Yaml.Timestamp

/-!
The value of a document.  Each node is read once, as its tag says: scalars where they are met, and
collections one after the other, those that are met first coming first (`Construction`).  What is
read of a collection refers to the nodes in it; their values are put in layer by layer
(`Part.unfold`), so that a node that is part of itself has a value too.

Mappings under the merge key are taken in before a mapping is read: what it says itself counts more,
and of several the first.
-/

namespace RobotWorkshop.Yaml

/-! ## Merging -/

/-- The nodes of a document, some of which are changed when mappings are taken in. -/
abbrev Nodes := Array Node

namespace Nodes

def node (g : Nodes) (i : Nat) : Node := g[i]?.getD default

def tag (g : Nodes) (i : Nat) : Tag := (g.node i).tag

/-- The entries of a mapping; other nodes have none. -/
def entries (g : Nodes) (i : Nat) : List (Nat × Nat) :=
  match (g.node i).content with
  | .mapping entries => entries
  | _ => []

def setEntries (g : Nodes) (i : Nat) (entries : List (Nat × Nat)) : Nodes :=
  g.modify i fun n => { n with content := .mapping entries }

/-- The standard key as a text like any other. -/
def settleKey (g : Nodes) (key : Nat) : Nodes :=
  g.modify key fun n => if n.tag = .standard then { n with tag := .text } else n

/-- The number of entries and items of all nodes. -/
def partCount (g : Nodes) : Nat :=
  g.foldl (fun n node => n + match node.content with
    | .scalar _ => 0
    | .sequence items => items.length
    | .mapping entries => entries.length) 0

mutual

/-- Takes in what a mapping has under merge keys, behind `taken`. -/
def flattenFrom : (fuel : Nat) → Nodes → Nat → (taken : List (Nat × Nat)) → Result Nodes
  | 0, _, _, _ => .error .malformed
  | fuel + 1, g, i, taken =>
    let own := g.entries i
    match own.find? fun entry => g.tag entry.1 = .merge with
    | none =>
      .ok ((own.foldl (fun g entry => g.settleKey entry.1) g).setEntries i (taken ++ own))
    | some (key, value) => do
      let g := g.setEntries i (own.erase (key, value))
      match (g.node value).content with
      | .mapping _ => do
        let g ← flattenFrom fuel g value []
        flattenFrom fuel g i (taken ++ g.entries value)
      | .sequence items => do
        let g ← flattenAll fuel g items
        flattenFrom fuel g i (taken ++ items.reverse.flatMap g.entries)
      | .scalar _ => .error .malformed

/-- Takes in what several mappings have under merge keys. -/
def flattenAll : (fuel : Nat) → Nodes → List Nat → Result Nodes
  | 0, _, _ => .error .malformed
  | _ + 1, g, [] => .ok g
  | fuel + 1, g, i :: rest =>
    match (g.node i).content with
    | .mapping _ => do flattenAll fuel (← flattenFrom fuel g i []) rest
    | _ => .error .malformed

end

/-- Takes in what a mapping has under merge keys.  Every step removes a merge key or goes on to the
next item of a list under one. -/
def flatten (g : Nodes) (i : Nat) : Result Nodes :=
  flattenFrom ((g.partCount + 1) * (g.partCount + 2)) g i []

/-! ## Scalars -/

/-- The text of a scalar, or of what a mapping has under the standard key. -/
def scalarText (g : Nodes) : (fuel : Nat) → Nat → Result String
  | 0, _ => .error .malformed
  | fuel + 1, i =>
    match (g.node i).content with
    | .scalar text => .ok text
    | .sequence _ => .error .malformed
    | .mapping entries =>
      match entries.find? fun entry => g.tag entry.1 = .standard with
      | some (_, value) => scalarText g fuel value
      | none => .error .malformed

/-- The truth value of a word, whose letters may be of either case. -/
def boolean (text : String) : Result Bool :=
  let word := lowerCase text
  if word ∈ ["yes", "true", "on"] then .ok true
  else if word ∈ ["no", "false", "off"] then .ok false
  else .error (.notBoolean word)

/-- The value of a node with a tag for scalars; none for other tags. -/
def scalar? (g : Nodes) (i : Nat) : Option (Result Value) :=
  let text := g.scalarText (g.size + 1) i
  match g.tag i with
  | .null => some (text.map fun _ => .null)
  | .boolean => some ((text.bind boolean).map .boolean)
  | .integer => some ((text.bind Number.integer).map .integer)
  | .float => some ((text.bind Number.float).map .float)
  | .moment =>
    some (text.bind fun text => match (g.node i).content with
      | .scalar _ => timestamp text
      | _ => .error .momentOfMapping)
  | .bytes => some ((text.bind Base64.decode).map .bytes)
  | .text => some (text.map .text)
  | .merge | .standard | .unknown => some (.error .malformed)
  | .list | .mapping | .set | .pairs => none

end Nodes

/-! ## Parts -/

/-- What is read of a node. -/
inductive Part where
  /-- A value by itself. -/
  | leaf (v : Value)
  | list (items : List Nat)
  | pairs (items : List (Nat × Nat))
  | mapping (entries : List (Value × Nat))
  | set (items : List Value)

namespace Part

/-- The value of a node, given values of the nodes in it. -/
def fold (values : Array Value) : Part → Value :=
  let value (i : Nat) := values[i]?.getD .null
  fun
  | .leaf v => v
  | .list items => .list (items.map value)
  | .pairs items => .list (items.map fun (i, j) => .list [value i, value j])
  | .mapping entries => .mapping (entries.map fun (key, i) => (key, value i))
  | .set items => .set items

/-- The values of all nodes, as far as a number of layers goes; below them collections are empty. -/
def unfold (parts : Array Part) : (layers : Nat) → Array Value
  | 0 => parts.map fun
    | .leaf v => v
    | .list _ | .pairs _ => .list []
    | .mapping _ => .mapping []
    | .set items => .set items
  | layers + 1 =>
    let values := unfold parts layers
    parts.map (fold values)

end Part

/-! ## Construction -/

structure Construction where
  nodes : Nodes
  /-- What was read of each node so far. -/
  parts : Array (Option Part)
  /-- The collections that are still to be read, in order. -/
  waiting : List Nat := []

namespace Construction

/-- Reads a scalar; a collection is read later. -/
def meet (b : Construction) (i : Nat) : Result Construction :=
  if ((b.parts[i]?).join).isSome then .ok b
  else match b.nodes.scalar? i with
    | some value => value.map fun v => { b with parts := b.parts.setIfInBounds i (some (.leaf v)) }
    | none => .ok { b with
        parts := b.parts.setIfInBounds i (some (.list []))
        waiting := b.waiting ++ [i] }

def meetAll (b : Construction) (nodes : List Nat) : Result Construction := nodes.foldlM meet b

/-- The key and the value of a mapping with one entry. -/
def pair (b : Construction) (i : Nat) : Result (Nat × Nat) :=
  match b.nodes.entries i with
  | [entry] => .ok entry
  | _ => .error .malformed

/-- The value of a key, which is a scalar. -/
def key (b : Construction) (i : Nat) : Result Value :=
  match (b.parts[i]?).join with
  | some (.leaf v) => .ok v
  | _ => .error .malformed

/-- Whether two keys are the same: equal ones, one node, or the one undefined value. -/
def sameKey (b : Construction) (first second : Nat × Value) : Bool :=
  let isUndefined (i : Nat) := match b.nodes.node i with
    | ⟨.float, .scalar text⟩ => Number.isUndefined text
    | _ => false
  first.2.sameKey second.2 || first.1 = second.1 || (isUndefined first.1 && isUndefined second.1)

/-- Meets keys and values.  A key that is there already keeps its place and gets the new value. -/
def meetEntries (b : Construction) (done : List ((Nat × Value) × Nat)) :
    List (Nat × Nat) → Result (Construction × List ((Nat × Value) × Nat))
  | [] => .ok (b, done)
  | (i, j) :: rest => do
    let b ← b.meet i
    let key := (i, ← b.key i)
    let b ← b.meet j
    let done := if done.any fun entry => b.sameKey entry.1 key then
        done.map fun entry => if b.sameKey entry.1 key then (entry.1, j) else entry
      else done ++ [(key, j)]
    meetEntries b done rest

/-- The entries of a mapping, with what it takes in. -/
def readEntries (b : Construction) (i : Nat) : Result (Construction × List (Value × Nat)) := do
  let nodes ← b.nodes.flatten i
  let (b, entries) ← meetEntries { b with nodes } [] (nodes.entries i)
  return (b, entries.map fun ((_, key), value) => (key, value))

/-- The keys and values of mappings with one entry each. -/
def readPairs (b : Construction) (done : List (Nat × Nat)) :
    List Nat → Result (Construction × List (Nat × Nat))
  | [] => .ok (b, done)
  | item :: rest => do
    let (key, value) ← b.pair item
    readPairs (← (← b.meet key).meet value) (done ++ [(key, value)]) rest

/-- Reads a collection that was met before. -/
def read (b : Construction) (i : Nat) : Result Construction :=
  let settle (b : Construction) (part : Part) : Construction :=
    { b with parts := b.parts.setIfInBounds i (some part) }
  match b.nodes.tag i, (b.nodes.node i).content with
  | .list, .sequence items => do return settle (← b.meetAll items) (.list items)
  | .pairs, .sequence items => do
    let (b, pairs) ← b.readPairs [] items
    return settle b (.pairs pairs)
  | .mapping, .mapping _ => do
    let (b, entries) ← b.readEntries i
    return settle b (.mapping entries)
  | .set, .mapping _ => do
    let (b, entries) ← b.readEntries i
    return settle b (.set (SetOrder.sorted (entries.map (·.1))))
  | _, _ => .error .malformed

/-- Reads the collections that are waiting. -/
def finish (b : Construction) : (fuel : Nat) → Result Construction
  | 0 => .ok b
  | fuel + 1 =>
    match b.waiting with
    | [] => .ok b
    | i :: waiting => do (← read { b with waiting } i).finish fuel

/-- Layers that a node has within itself at least; settings do not go that deep. -/
def ownLayers : Nat := 8

/-- The value of a node, when everything has been read. -/
def value (b : Construction) (i : Nat) : Value :=
  let parts := b.parts.map fun part => part.getD (.leaf .null)
  let collections := (b.nodes.filter fun n => n.content matches .sequence _ | .mapping _).size
  ((Part.unfold parts (collections + ownLayers))[i]?).getD .null

end Construction

/-- The value of the node that a document consists of.  Every node waits at most once. -/
def Graph.value (g : Graph) : Result Value := do
  let start : Construction := { nodes := g.nodes, parts := g.nodes.map fun _ => none }
  return ((← (← start.meet g.root).finish g.nodes.size).value g.root)

/-- The value of a text; a text without a document is nothing. -/
def read (text : String) : Result Value := do
  match ← document? (Token.scan text.toList) with
  | none => return .null
  | some graph => graph.value

end RobotWorkshop.Yaml
