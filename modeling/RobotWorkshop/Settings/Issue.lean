import RobotWorkshop.Settings.Value
import RobotWorkshop.Text.Quoted

/-!
What is wrong with a settings document, and where.
-/

namespace RobotWorkshop

/-- One step on the way to a place in a document. -/
inductive Key where
  | name (s : String)
  | index (n : Int)
  | bytes (data : List UInt8)
  | date (d : Date)
  | moment (m : Moment)
deriving DecidableEq, Repr

def Key.text : Key → String
  | .name s => s
  | .index n => toString n
  | .bytes data => String.ofList (data.map fun b => Char.ofNat b.toNat)
  | .date d => d.text
  | .moment m => m.text

/-- The sections and entries that have to be mappings. -/
inductive Section where
  | cpu
  | bomb
  | program
  | unlocks
  | upgradeNode
  | upgrades
  | gear
  | level
  | step
  | script
  | outputs
deriving DecidableEq, Repr

/-- How messages name a section. -/
def Section.name : Section → String
  | .cpu => "CpuConfig"
  | .bomb => "BombConfig"
  | .program => "ProgramConfig"
  | .unlocks => "UnlockConfig"
  | .upgradeNode => "UpgradeNodeConfig"
  | .upgrades => "UpgradeConfig"
  | .gear => "GearConfig"
  | .level => "LevelConfig"
  | .step => "ScriptStep"
  | .script => "ScriptConfig"
  | .outputs => "OutputConfig"

/-- A value that has the right type and is still not allowed. -/
inductive Rule where
  | cpuNotPositive
  | bombNotPositive
  | capacityBelowOne
  | unknownCategory (name : String)
  | unknownInstruction (name : String)
  | foreignInstruction (name category : String)
  | negativeCost
  | edgeNotPair
  | gearNotPositive
  | facingNotUnit
  | addWithoutInstruction
  | timingNotPositive
deriving DecidableEq, Repr

def Rule.message : Rule → String
  | .cpuNotPositive => "cpu parameters must be strictly positive"
  | .bombNotPositive => "bomb duration must be positive"
  | .capacityBelowOne => "initial_capacity must be at least 1"
  | .unknownCategory name => "unknown instruction category " ++ quoted name
  | .unknownInstruction name => "unknown instruction " ++ quoted name
  | .foreignInstruction name category => s!"{name} does not belong to category {category}"
  | .negativeCost => "upgrade cost must be non-negative"
  | .edgeNotPair => "edges must be [source, target] pairs"
  | .gearNotPositive => "gear value must be positive"
  | .facingNotUnit => "facing must be a unit cardinal vector"
  | .addWithoutInstruction => "add steps need an instruction"
  | .timingNotPositive => "script timings must be positive"

/-- What is wrong at one place. -/
inductive Problem where
  | notSection (expected : Section)
  | missing
  | notFloat
  | unreadableFloat
  | notInteger
  | fractional
  | unreadableInteger
  | integerTooLarge
  | notFinite
  | notBoolean
  | unreadableBoolean
  | notText
  | undecodable
  | notPath
  | notList
  | notMapping
  | notChoice (choices : List String)
  | broken (rule : Rule)
deriving DecidableEq, Repr

namespace Problem

/-- The class of the problem. -/
def code : Problem → String
  | .notSection _ => "model_type"
  | .missing => "missing"
  | .notFloat => "float_type"
  | .unreadableFloat => "float_parsing"
  | .notInteger => "int_type"
  | .fractional => "int_from_float"
  | .unreadableInteger => "int_parsing"
  | .integerTooLarge => "int_parsing_size"
  | .notFinite => "finite_number"
  | .notBoolean => "bool_type"
  | .unreadableBoolean => "bool_parsing"
  | .notText => "string_type"
  | .undecodable => "string_unicode"
  | .notPath => "path_type"
  | .notList => "list_type"
  | .notMapping => "dict_type"
  | .notChoice _ => "literal_error"
  | .broken _ => "value_error"

/-- Choices in quotes, the last one set off by "or". -/
def alternatives : List String → String
  | [] => ""
  | [choice] => quoted choice
  | [choice, last] => quoted choice ++ " or " ++ quoted last
  | choice :: rest => quoted choice ++ ", " ++ alternatives rest

def message : Problem → String
  | .notSection expected =>
    "Input should be a valid dictionary or instance of " ++ expected.name
  | .missing => "Field required"
  | .notFloat => "Input should be a valid number"
  | .unreadableFloat => "Input should be a valid number, unable to parse string as a number"
  | .notInteger => "Input should be a valid integer"
  | .fractional => "Input should be a valid integer, got a number with a fractional part"
  | .unreadableInteger => "Input should be a valid integer, unable to parse string as an integer"
  | .integerTooLarge => "Unable to parse input string as an integer, exceeded maximum size"
  | .notFinite => "Input should be a finite number"
  | .notBoolean => "Input should be a valid boolean"
  | .unreadableBoolean => "Input should be a valid boolean, unable to interpret input"
  | .notText => "Input should be a valid string"
  | .undecodable =>
    "Input should be a valid string, unable to parse raw data as a unicode string"
  | .notPath => "Input is not a valid path for <class 'pathlib.Path'>"
  | .notList => "Input should be a valid list"
  | .notMapping => "Input should be a valid dictionary"
  | .notChoice choices => "Input should be " ++ alternatives choices
  | .broken rule => "Value error, " ++ rule.message

end Problem

/-- A problem and the way to it. -/
structure Issue where
  place : List Key
  problem : Problem
deriving DecidableEq, Repr

/-- The issue, seen from further out. -/
def Issue.under (key : Key) (issue : Issue) : Issue := { issue with place := key :: issue.place }

end RobotWorkshop
