import RobotWorkshop.CommandLine.Reply

/-!
The program: it looks up the settings file, and puts into effect what a command line is answered.
-/

open RobotWorkshop RobotWorkshop.CommandLine

/-- A run may take that many frames. -/
def frameLimit : Nat := 1000000000

/-- The text of a place in a path from the root. -/
def placeText (place : Place) : String := "/" ++ "/".intercalate place

/-- The tree with the settings file that a command line names, if it can be read. -/
def withSettingsFile (tree : Tree) (arguments : List String) : IO Tree := do
  match Request.ofArguments? arguments with
  | .error _ => return tree
  | .ok request =>
    match request.settings? with
    | none => return tree
    | some path =>
      try
        let text ← IO.FS.readFile path.text
        let place := tree.place path
        let folders := (List.range place.length).map place.take
        return { tree with files := [(place, text)], folders }
      catch _ => return tree

/-- Makes the folders of a tree and writes the files that are new in it or have changed. -/
def putInPlace (before after : Tree) : IO Unit := do
  for folder in after.folders do
    IO.FS.createDirAll (placeText folder)
  for (place, text) in after.files do
    unless before.files.contains (place, text) do
      IO.FS.writeFile (placeText place) text

def main (arguments : List String) : IO UInt32 := do
  let home := ((← IO.currentDir).toString.splitOn "/").filter (· ≠ "")
  let tree ← withSettingsFile { home } arguments
  let reply := perform frameLimit tree arguments
  for line in reply.lines do
    IO.println line
  match reply.ending with
  | .done | .notAccepted => pure ()
  | .misused cause => IO.eprintln cause.message
  | .failed cause => IO.eprintln cause.message
  putInPlace tree reply.tree
  return reply.ending.code.toUInt32
