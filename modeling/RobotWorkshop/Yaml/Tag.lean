/-!
Tags: what a node of a document is to be read as.
-/

namespace RobotWorkshop.Yaml

inductive Tag where
  | null
  | boolean
  | integer
  | float
  | moment
  | bytes
  | text
  | list
  | mapping
  | set
  /-- A list of mappings with one entry each. -/
  | pairs
  /-- The key under which other mappings are taken in. -/
  | merge
  /-- The key of the value that a mapping has as a scalar. -/
  | standard
  /-- A tag without a reading. -/
  | unknown
deriving DecidableEq, Repr, Inhabited

namespace Tag

/-- The words for the tags that have a reading. -/
def words : List (String × Tag) := [
  ("null", .null), ("bool", .boolean), ("int", .integer), ("float", .float), ("timestamp", .moment),
  ("binary", .bytes), ("str", .text), ("seq", .list), ("map", .mapping), ("set", .set),
  ("omap", .pairs), ("pairs", .pairs), ("merge", .merge), ("value", .standard)]

/-- What stands in front of the words. -/
def start : String := "tag:yaml.org,2002:"

/-- The tag that is spelled out in full. -/
def ofName (name : String) : Tag :=
  ((words.find? fun (word, _) => start ++ word = name).map (·.2)).getD .unknown

end Tag

end RobotWorkshop.Yaml
