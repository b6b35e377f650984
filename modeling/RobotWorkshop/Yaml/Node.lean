import RobotWorkshop.Yaml.Plain
import RobotWorkshop.Yaml.Token

/-!
The nodes of a document.  A node is a scalar, a sequence or a mapping, and carries the tag that says
what it is to be read as.  Nodes refer to each other by number: an alias stands for the node that
was anchored under its name before, which may be a node that is still being read, so that a node can
be part of itself.

A text holds at most one document.
-/

namespace RobotWorkshop.Yaml

inductive Content where
  | scalar (text : String)
  | sequence (items : List Nat)
  /-- Keys and values. -/
  | mapping (entries : List (Nat × Nat))
deriving Repr, Inhabited

structure Node where
  tag : Tag
  content : Content
deriving Repr, Inhabited

/-- What is left of the tokens, the nodes so far, and those among them that are anchored. -/
structure Reading where
  tokens : List Token
  nodes : Array Node := #[]
  anchors : List (String × Nat) := []
  handles : List (String × String)

/-- A part of a document that was read, and where reading goes on. -/
abbrev Read (α : Type) := Reading → Result (α × Reading)

/-- Where a node stands: within brackets, in a block, or as the key or value of a block mapping,
where the items of a sequence need no deeper indentation. -/
inductive Place where
  | flow
  | block
  | entry
deriving DecidableEq

/-- The tag that asks for the reading that a node has without one. -/
def openTag : String := "!"

/-- The tag of a node: the one that is written, or the one that a node has without. -/
def tagOr (written : Option String) (tag : Tag) : Tag :=
  ((written.filter (· ≠ openTag)).map Tag.ofName).getD tag

/-- The tag of a scalar.  A plain one stands for what it looks like. -/
def scalarTag (written : Option String) (isPlain : Bool) (text : String) : Tag :=
  tagOr written (if isPlain || written = some openTag then Tag.ofPlain text else .text)

namespace Reading

def peek (r : Reading) : Option Token := r.tokens.head?

def next (r : Reading) : Reading := { r with tokens := r.tokens.drop 1 }

/-- Why reading cannot go on with what follows. -/
def stuck (r : Reading) : DocumentFault :=
  match r.peek with
  | some (.broken cause) => cause
  | _ => .malformed

/-- Goes past a token that has to follow. -/
def expect (r : Reading) (t : Token) : Result Reading :=
  if r.peek = some t then .ok r.next else .error r.stuck

/-- Whether one of some tokens follows. -/
def atAny (r : Reading) (ts : List Token) : Bool := r.peek.any ts.contains

/-- Adds a node, and answers its number. -/
def add (r : Reading) (tag : Tag) (content : Content) : Nat × Reading :=
  (r.nodes.size, { r with nodes := r.nodes.push ⟨tag, content⟩ })

/-- Fills a node that was added before. -/
def fill (r : Reading) (node : Nat) (content : Content) : Reading :=
  { r with nodes := r.nodes.modify node fun n => { n with content } }

/-- Gives the node that comes next a name, which no other node may have. -/
def named (r : Reading) (name : Option String) : Result Reading :=
  match name with
  | none => .ok r
  | some name =>
    if r.anchors.any (·.1 = name) then .error r.stuck
    else .ok { r with anchors := (name, r.nodes.size) :: r.anchors }

/-- A tag in full; its handle has to be known. -/
def fullTag (r : Reading) (handle : Option String) (suffix : String) : Result String :=
  match handle with
  | none => .ok suffix
  | some handle =>
    match r.handles.find? (·.1 = handle) with
    | some (_, start) => .ok (start ++ suffix)
    | none => .error r.stuck

/-- The anchor and the tag in front of a node, in either order. -/
def properties (r : Reading) : Result (Option String × Option String × Reading) :=
  match r.peek with
  | some (.anchor name) =>
    let r := r.next
    match r.peek with
    | some (.tag handle suffix) => do return (some name, some (← r.fullTag handle suffix), r.next)
    | _ => .ok (some name, none, r)
  | some (.tag handle suffix) => do
    let r := r.next
    let tag ← r.fullTag handle suffix
    match r.peek with
    | some (.anchor name) => .ok (some name, some tag, r.next)
    | _ => .ok (none, some tag, r)
  | _ => .ok (none, none, r)

/-- The node that stands where nothing is written. -/
def empty : Read Nat := fun r => .ok (r.add .null (.scalar ""))

/-- Properties may stand alone, for an empty scalar. -/
def absent (name written : Option String) : Read Nat := fun r =>
  if name.isNone && written.isNone then .error r.stuck
  else .ok (r.add (tagOr written .null) (.scalar ""))

mutual

/-- A node. -/
def node (place : Place) : (fuel : Nat) → Read Nat
  | 0, r => .error r.stuck
  | fuel + 1, r =>
    match r.peek with
    | some (.alias name) =>
      match r.anchors.find? (·.1 = name) with
      | some (_, node) => .ok (node, r.next)
      | none => .error r.stuck
    | _ => do
      let (name, written, r) ← r.properties
      let r ← r.named name
      match r.peek with
      | some (.scalar text isPlain) =>
        return r.next.add (scalarTag written isPlain text) (.scalar text)
      | some .openSequence =>
        let (node, r) := r.next.add (tagOr written .list) (.sequence [])
        let (items, r) ← flowItems true fuel r
        return (node, r.fill node (.sequence items))
      | some .openMapping =>
        let (node, r) := r.next.add (tagOr written .mapping) (.mapping [])
        let (entries, r) ← flowEntries true fuel r
        return (node, r.fill node (.mapping entries))
      | some .blockItem =>
        if place = .entry then
          let (node, r) := r.add (tagOr written .list) (.sequence [])
          let (items, r) ← blockItems false fuel r
          return (node, r.fill node (.sequence items))
        else absent name written r
      | some .blockSequence =>
        if place = .flow then absent name written r
        else
          let (node, r) := r.next.add (tagOr written .list) (.sequence [])
          let (items, r) ← blockItems true fuel r
          return (node, r.fill node (.sequence items))
      | some .blockMapping =>
        if place = .flow then absent name written r
        else
          let (node, r) := r.next.add (tagOr written .mapping) (.mapping [])
          let (entries, r) ← blockEntries fuel r
          return (node, r.fill node (.mapping entries))
      | _ => absent name written r

/-- A node, or nothing where one of some tokens follows. -/
def nodeUnless (place : Place) (ends : List Token) : (fuel : Nat) → Read Nat
  | 0, r => .error r.stuck
  | fuel + 1, r => if r.atAny ends then empty r else node place fuel r

/-- The value behind a key, if there is one. -/
def valueUnless (place : Place) (ends : List Token) : (fuel : Nat) → Read Nat
  | 0, r => .error r.stuck
  | fuel + 1, r =>
    if r.peek = some .value then nodeUnless place ends fuel r.next else empty r

/-- The items of a block sequence.  One with an indentation of its own ends with its block. -/
def blockItems (indented : Bool) : (fuel : Nat) → Read (List Nat)
  | 0, r => .error r.stuck
  | fuel + 1, r =>
    if r.peek = some .blockItem then do
      let ends :=
        if indented then [.blockItem, .blockEnd] else [.blockItem, .key, .value, .blockEnd]
      let (item, r) ← nodeUnless .block ends fuel r.next
      let (items, r) ← blockItems indented fuel r
      return (item :: items, r)
    else if indented then do return ([], ← r.expect .blockEnd)
    else .ok ([], r)

/-- The entries of a block mapping, up to the end of its block. -/
def blockEntries : (fuel : Nat) → Read (List (Nat × Nat))
  | 0, r => .error r.stuck
  | fuel + 1, r =>
    let ends := [.key, .value, .blockEnd]
    if r.peek = some .key then do
      let (key, r) ← nodeUnless .entry ends fuel r.next
      let (value, r) ← valueUnless .entry ends fuel r
      let (entries, r) ← blockEntries fuel r
      return ((key, value) :: entries, r)
    else do return ([], ← r.expect .blockEnd)

/-- The items of a sequence in brackets; a single entry may stand for a mapping. -/
def flowItems (first : Bool) : (fuel : Nat) → Read (List Nat)
  | 0, r => .error r.stuck
  | fuel + 1, r =>
    if r.peek = some .closeSequence then .ok ([], r.next)
    else do
      let r ← if first then .ok r else r.expect .comma
      match r.peek with
      | some .closeSequence => return ([], r.next)
      | some .key =>
        let (key, r) ← nodeUnless .flow [.value, .comma, .closeSequence] fuel r.next
        let (value, r) ← valueUnless .flow [.comma, .closeSequence] fuel r
        let (pair, r) := r.add .mapping (.mapping [(key, value)])
        let (items, r) ← flowItems false fuel r
        return (pair :: items, r)
      | _ =>
        let (item, r) ← node .flow fuel r
        let (items, r) ← flowItems false fuel r
        return (item :: items, r)

/-- The entries of a mapping in braces; a key may stand alone. -/
def flowEntries (first : Bool) : (fuel : Nat) → Read (List (Nat × Nat))
  | 0, r => .error r.stuck
  | fuel + 1, r =>
    if r.peek = some .closeMapping then .ok ([], r.next)
    else do
      let r ← if first then .ok r else r.expect .comma
      match r.peek with
      | some .closeMapping => return ([], r.next)
      | some .key =>
        let (key, r) ← nodeUnless .flow [.value, .comma, .closeMapping] fuel r.next
        let (value, r) ← valueUnless .flow [.comma, .closeMapping] fuel r
        let (entries, r) ← flowEntries false fuel r
        return ((key, value) :: entries, r)
      | _ =>
        let (key, r) ← node .flow fuel r
        let (value, r) ← empty r
        let (entries, r) ← flowEntries false fuel r
        return ((key, value) :: entries, r)

end

end Reading

/-! ## Documents -/

/-- The handles that need no directive. -/
def standardHandles : List (String × String) := [("!", "!"), ("!!", "tag:yaml.org,2002:")]

/-- Goes past the directives in front of a document: at most one version, whose first number is one,
and handles, none of them twice. -/
def Reading.directives (r : Reading) (versioned : Bool) : (fuel : Nat) → Result Reading
  | 0 => .error r.stuck
  | fuel + 1 =>
    match r.peek with
    | some (.version major) =>
      if versioned || major ≠ 1 then .error .malformed else r.next.directives true fuel
    | some (.handle name start) =>
      if r.handles.any (·.1 = name) then .error .malformed
      else directives { r.next with handles := r.handles ++ [(name, start)] } versioned fuel
    | some .otherDirective => r.next.directives versioned fuel
    | _ => .ok { r with handles := r.handles ++ standardHandles }

def isDirective : Token → Bool
  | .version _ | .handle _ _ | .otherDirective => true
  | _ => false

/-- Goes past what stands in front of a document that begins with a mark. -/
def Reading.start (r : Reading) (fuel : Nat) : Result Reading := do
  (← r.directives false fuel).expect .documentStart

/-- Goes past the end marks behind a document.  Nothing else may follow. -/
def Reading.finish (r : Reading) (fuel : Nat) : Result Unit :=
  let r := { r with tokens := r.tokens.dropWhile (· = Token.documentEnd), handles := [] }
  if r.tokens.isEmpty then .ok () else do throw (← r.directives false fuel).stuck

/-- The nodes of a document, and the one that it consists of. -/
structure Graph where
  nodes : Array Node
  root : Nat

/-- The nodes of the document, if there is one. -/
def document? (tokens : List Token) : Result (Option Graph) := do
  let fuel := 4 * tokens.length + 4
  if tokens.isEmpty then return none
  let marked := tokens.head?.any fun t => isDirective t || t = .documentStart
  let r ← if marked then Reading.start { tokens, handles := [] } fuel
    else .ok { tokens, handles := standardHandles }
  let isBare := marked && (r.tokens.isEmpty || r.tokens.head?.any fun t =>
    isDirective t || t = .documentStart || t = .documentEnd)
  let (node, r) ← if isBare then r.empty else r.node .block fuel
  r.finish fuel
  return some ⟨r.nodes, node⟩

end RobotWorkshop.Yaml
