/-!
Paths, in a normal form: empty and `.` components are dropped, `..` is kept.  A path that begins
with exactly two slashes keeps them; any other number of leading slashes counts as one.
-/

namespace RobotWorkshop

structure Path where
  /-- The leading slashes. -/
  root : String
  parts : List String
deriving DecidableEq, Repr

namespace Path

def ofText (text : String) : Path :=
  let slashes := text.toList.takeWhile (· == '/') |>.length
  { root := if slashes = 0 then "" else if slashes = 2 then "//" else "/"
    parts := (text.splitOn "/").filter fun part => part ≠ "" ∧ part ≠ "." }

/-- The path as it is shown; the path to nowhere else is a dot. -/
def text (p : Path) : String :=
  if p.root = "" ∧ p.parts = [] then "." else p.root ++ "/".intercalate p.parts

/-- The path to something in a directory. -/
def child (p : Path) (name : String) : Path := { p with parts := p.parts ++ [name] }

end Path

end RobotWorkshop
