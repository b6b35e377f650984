import RobotWorkshop.Settings.Path
import RobotWorkshop.Text.Quoted

/-!
Files and folders, by the names on the way to them from the root.  Paths are walked name by name;
those without a root begin in a working folder.
-/

namespace RobotWorkshop

/-- Why something cannot be done with a file or a folder. -/
inductive FileFault where
  | absent (path : Path)
  /-- A file stands where a folder is to be made. -/
  | taken (path : Path)
  /-- A file stands where the way leads on. -/
  | notFolder (path : Path)
  | isFolder (path : Path)
  | tooLong (path : Path)
  /-- A name holds the character zero. -/
  | zeroInName
  /-- A path holds halves of characters that stand for no byte, side by side from a position on. -/
  | halvesInName (first : Nat) (position count : Nat)
deriving DecidableEq, Repr

namespace FileFault

/-- The text for a path that stands in the way of something. -/
def pathMessage (code : Nat) (reason : String) (path : Path) : String :=
  s!"[Errno {code}] {reason}: {quoted path.text}"

def message : FileFault → String
  | .absent path => pathMessage 2 "No such file or directory" path
  | .taken path => pathMessage 17 "File exists" path
  | .notFolder path => pathMessage 20 "Not a directory" path
  | .isFolder path => pathMessage 21 "Is a directory" path
  | .tooLong path => pathMessage 36 "File name too long" path
  | .zeroInName => "embedded null byte"
  | .halvesInName first position count =>
    let which :=
      if count = 1 then
        s!"character {quoted (String.ofList (Surrogate.ofCode first))} in position {position}"
      else s!"characters in position {position}-{position + count - 1}"
    s!"'utf-8' codec can't encode {which}: surrogates not allowed"

end FileFault

/-! ## Names -/

/-- Whether a half of a character stands for a byte that is none of any character. -/
def isByteHalf (n : Nat) : Bool := 0xDC80 ≤ n && n ≤ 0xDCFF

/-- The number of bytes of a text. -/
def byteCount (text : String) : Nat :=
  (Surrogate.codes text.toList).foldl
    (fun n code => n + if Surrogate.isCode code then 1 else (Char.ofNat code).utf8Size) 0

/-- The bytes that a name may have. -/
def longestName : Nat := 255

/-- The bytes that a path may have. -/
def longestPath : Nat := 4095

/-- The halves in a path that stand for no byte, and those right behind them. -/
def halvesIn? (text : String) : Option FileFault :=
  let codes := Surrogate.codes text.toList
  let isLone (n : Nat) := Surrogate.isCode n && !isByteHalf n
  let before := codes.takeWhile (!isLone ·)
  match codes.drop before.length with
  | [] => none
  | n :: rest =>
    some (.halvesInName n before.length (rest.takeWhile Surrogate.isCode).length.succ)

/-- Whether a path can be used at all. -/
def Path.check (path : Path) : Except FileFault Unit :=
  match halvesIn? path.text with
  | some fault => .error fault
  | none =>
    if path.text.toList.contains '\x00' then .error .zeroInName
    else if longestPath < byteCount path.text then .error (.tooLong path)
    else .ok ()

/-- The names on the way from the root to a file or a folder. -/
abbrev Place := List String

/-- The place that a name leads to.  The root is above itself. -/
def Place.enter (place : Place) (name : String) : Place :=
  if name = ".." then place.dropLast else place ++ [name]

structure Tree where
  /-- The working folder. -/
  home : Place := []
  files : List (Place × String) := []
  /-- Folders other than the working folder and those above it. -/
  folders : List Place := []

namespace Tree

/-- Where a path begins. -/
def start (t : Tree) (path : Path) : Place := if path.root = "" then t.home else []

/-- Where a path leads to. -/
def place (t : Tree) (path : Path) : Place := path.parts.foldl Place.enter (t.start path)

/-- The text of the file at a place. -/
def file? (t : Tree) (place : Place) : Option String := (t.files.find? (·.1 = place)).map (·.2)

def hasFolder (t : Tree) (place : Place) : Bool := place.isPrefixOf t.home || place ∈ t.folders

/-- Reads a file on the way over some names; `path` is the whole way. -/
def readFrom (t : Tree) (path : Path) : Place → List String → Except FileFault String
  | _, [] => .error (.isFolder path)
  | place, name :: rest =>
    let place := Place.enter place name
    if longestName < byteCount name then .error (.tooLong path)
    else match t.file? place with
    | some text => if rest.isEmpty then .ok text else .error (.notFolder path)
    | none => if t.hasFolder place then readFrom t path place rest else .error (.absent path)

/-- The text of a file. -/
def read (t : Tree) (path : Path) : Except FileFault String := do
  path.check
  t.readFrom path (t.start path) path.parts

/-- Makes the folders on a way, those on the way so far being there.  A file or a name that stands
in the way is found where the first folder is made behind it, and otherwise at the end. -/
def makeFrom (path : Path) : Tree → (made : Bool) → Place → (past rest : List String) →
    Except FileFault Tree
  | t, _, _, _, [] => .ok t
  | t, made, place, past, name :: rest =>
    let place := Place.enter place name
    let past := past ++ [name]
    let here := { path with parts := past }
    if longestName < byteCount name then .error (.tooLong (if made then here else path))
    else if (t.file? place).isSome then
      .error (if made || rest.isEmpty then .taken here else .notFolder path)
    else if t.hasFolder place then makeFrom path t made place past rest
    else makeFrom path { t with folders := t.folders ++ [place] } true place past rest

/-- Makes a folder and those on the way to it.  A folder that is there already is all right. -/
def makeFolder (t : Tree) (path : Path) : Except FileFault Tree := do
  path.check
  makeFrom path t false (t.start path) [] path.parts

/-- Writes a file in a folder that is there. -/
def write (t : Tree) (path : Path) (text : String) : Except FileFault Tree := do
  path.check
  let place := t.place path
  if t.hasFolder place then .error (.isFolder path)
  else .ok { t with files := t.files.filter (·.1 ≠ place) ++ [(place, text)] }

/-- The files below the working folder, by the names on the way from there. -/
def filesAtHome (t : Tree) : List (List String × String) :=
  t.files.filterMap fun (place, text) =>
    if t.home.isPrefixOf place then some (place.drop t.home.length, text) else none

end Tree

end RobotWorkshop
