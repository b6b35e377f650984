import RobotWorkshop.Files.Tree
import RobotWorkshop.Number.Numeral

/-!
What a command line asks for.  The first argument names a command and the others are its options.
The value of an option follows it, in the same argument after an equals sign or in the next one; of
an option that is given several times the last counts.
-/

namespace RobotWorkshop.CommandLine

/-- Why a command line asks for nothing. -/
inductive UsageFault where
  | noCommand
  | unknownCommand (name : String)
  | unknownOption (name : String)
  | valueMissing (option : String)
  | valueUnwanted (option : String)
  | valueUnreadable (option text : String)
  | unexpected (argument : String)
deriving DecidableEq, Repr

def UsageFault.message : UsageFault → String
  | .noCommand => "a command is missing: run, upgrades or validate"
  | .unknownCommand name => "no such command: " ++ name
  | .unknownOption name => "no such option: " ++ name
  | .valueMissing option => option ++ " needs a value"
  | .valueUnwanted option => option ++ " takes no value"
  | .valueUnreadable option text => option ++ " does not take the value " ++ text
  | .unexpected argument => "unexpected argument: " ++ argument

inductive Request where
  /-- Plays the script of a settings file. -/
  | run (settings runDir : Option Path) (frameDt : Option Float) (summarize : Bool)
      (logLevel : String)
  /-- Shows the upgrades, and which of them a balance can pay for. -/
  | upgrades (settings : Option Path) (balance : Int)
  /-- Checks a settings file. -/
  | validate (settings : Option Path)

/-- The settings file that is asked for, if it is not the standard one. -/
def Request.settings? : Request → Option Path
  | .run settings .. | .upgrades settings _ | .validate settings => settings

/-! ## Options -/

/-- Options as they were given, with their values. -/
abbrev Given := List (String × String)

/-- An argument up to its first equals sign, and what follows the sign if there is one. -/
def splitOption (argument : String) : String × Option String :=
  let chars := argument.toList
  let name := String.ofList (chars.takeWhile (· ≠ '='))
  match chars.dropWhile (· ≠ '=') with
  | [] => (name, none)
  | _ :: value => (name, some (String.ofList value))

/-- Whether an argument is written as an option. -/
def isOption (argument : String) : Bool :=
  argument.toList.head? == some '-' && 1 < argument.length

/-- The options among the arguments: those that take a value, and those that are set by
themselves. -/
def readOptions (valued bare : List String) : List String → Except UsageFault Given
  | [] => .ok []
  | "--" :: rest =>
    match rest with
    | [] => .ok []
    | argument :: _ => .error (.unexpected argument)
  | argument :: rest =>
    if isOption argument then
      match splitOption argument with
      | (name, value) =>
        if name ∈ valued then
          match value, rest with
          | some value, rest => (readOptions valued bare rest).map ((name, value) :: ·)
          | none, value :: rest => (readOptions valued bare rest).map ((name, value) :: ·)
          | none, [] => .error (.valueMissing name)
        else if name ∈ bare then
          if value.isSome then .error (.valueUnwanted name)
          else (readOptions valued bare rest).map ((name, "") :: ·)
        else .error (.unknownOption name)
    else .error (.unexpected argument)

namespace Given

/-- The last of some options that was given, with its value. -/
def last? (given : Given) (names : List String) : Option (String × String) :=
  given.reverse.find? fun (name, _) => name ∈ names

/-- The value of an option, read in some way. -/
def value? {α : Type} (given : Given) (name : String) (read : String → Option α) :
    Except UsageFault (Option α) :=
  match given.last? [name] with
  | none => .ok none
  | some (_, text) => (read text).elim (.error (.valueUnreadable name text)) fun a => .ok (some a)

/-- The path of an option, in which nothing may stand that no name can hold. -/
def path? (given : Given) (name : String) : Except UsageFault (Option Path) :=
  given.value? name fun text =>
    let path := Path.ofText text
    match path.check with
    | .error .zeroInName | .error (.halvesInName ..) => none
    | _ => some path

end Given

/-! ## Commands -/

namespace Request

def ofRunOptions? (given : Given) : Except UsageFault Request := do
  let settings ← given.path? "--config"
  let runDir ← given.path? "--run-dir"
  let frameDt ← given.value? "--frame-dt" readFloat?
  let summarize := (given.last? ["--summarize", "--no-summarize"]).all (·.1 = "--summarize")
  let logLevel := ((given.last? ["--log-level"]).map (·.2)).getD "warning"
  return .run settings runDir frameDt summarize logLevel

def ofUpgradesOptions? (given : Given) : Except UsageFault Request := do
  let settings ← given.path? "--config"
  let balance ← given.value? "--balance" fun text => (readInteger text).toOption
  return .upgrades settings (balance.getD 0)

def ofValidateOptions? (given : Given) : Except UsageFault Request := do
  return .validate (← given.path? "--config")

def ofCommand? (name : String) (arguments : List String) : Except UsageFault Request :=
  match name with
  | "run" =>
    (readOptions ["--config", "--run-dir", "--frame-dt", "--log-level"]
      ["--summarize", "--no-summarize"] arguments).bind ofRunOptions?
  | "upgrades" => (readOptions ["--config", "--balance"] [] arguments).bind ofUpgradesOptions?
  | "validate" => (readOptions ["--config"] [] arguments).bind ofValidateOptions?
  | name => .error (if isOption name then .unknownOption name else .unknownCommand name)

/-- What the arguments of a command line ask for. -/
def ofArguments? : List String → Except UsageFault Request
  | [] | ["--"] => .error .noCommand
  | "--" :: name :: arguments | name :: arguments => ofCommand? name arguments

end Request

end RobotWorkshop.CommandLine
