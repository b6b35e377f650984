import RobotWorkshop.Number.Numeral
import RobotWorkshop.Settings.Basic
import RobotWorkshop.Settings.Issue
import RobotWorkshop.Yaml.Fault

/-!
From a document to settings.  Every value is read as what its place asks for; a text may stand for a
number or for a truth value, and bytes for the text that they encode.  The issues of all places are
collected, in the order in which the settings are declared; a value of the wrong type is not looked
at any further.
-/

namespace RobotWorkshop

/-- Why a document does not give settings. -/
inductive SettingsFault where
  /-- All that is wrong, and where. -/
  | invalid (issues : List Issue)
  /-- The list of prerequisites cannot be gone through. -/
  | notIterable (kind : ValueKind)
  | notMapping (kind : ValueKind)
  | keyNotText
  /-- The text gives no document at all. -/
  | document (cause : Yaml.DocumentFault)
deriving DecidableEq, Repr

def SettingsFault.message : SettingsFault → String
  | .invalid issues => s!"{issues.length} issues with the settings"
  | .notIterable _ => "the prerequisites are no list"
  | .notMapping _ => "the settings are no mapping"
  | .keyNotText => "a key of the settings is no text"
  | .document cause => cause.message

/-- A value, or why there is none. -/
abbrev Checked (α : Type) := Except SettingsFault α

namespace Checked

def issue {α : Type} (problem : Problem) : Checked α := .error (.invalid [⟨[], problem⟩])

def broken {α : Type} (rule : Rule) : Checked α := issue (.broken rule)

/-- Both faults: issues are collected, and any other fault comes before them. -/
def join : SettingsFault → SettingsFault → SettingsFault
  | .invalid first, .invalid second => .invalid (first ++ second)
  | .invalid _, second => second
  | first, _ => first

/-- Both values, or the faults of both. -/
def both {α β : Type} : Checked α → Checked β → Checked (α × β)
  | .ok a, .ok b => .ok (a, b)
  | .ok _, .error f | .error f, .ok _ => .error f
  | .error f, .error g => .error (join f g)

/-- A check inside of a value, seen from outside. -/
def under {α : Type} (key : Key) : Checked α → Checked α
  | .error (.invalid issues) => .error (.invalid (issues.map (·.under key)))
  | checked => checked

/-- Checks each item of a list. -/
def items {α : Type} (read : Value → Checked α) (values : List Value) : Checked (List α) :=
  values.zipIdx.foldr (fun (value, i) rest =>
    (both (under (.index i) (read value)) rest).map fun (a, as) => a :: as) (.ok [])

/-! ## Values of one type -/

/-- A text of whole characters, read in some way. -/
def ofText {α : Type} (read : String → Checked α) (s : String) : Checked α :=
  if Surrogate.isBroken s then issue .undecodable else read s

/-- The text that some bytes encode, read in some way. -/
def ofBytes {α : Type} (data : List UInt8) (problem : Problem) (read : String → Checked α) :
    Checked α :=
  (String.fromUTF8? ⟨data.toArray⟩).elim (issue problem) read

def boolean (v : Value) : Checked Bool :=
  let ofInteger (n : Int) : Checked Bool :=
    if n = 0 then .ok false else if n = 1 then .ok true
    else if isWord n then issue .unreadableBoolean
    else issue .notBoolean
  let ofWord (s : String) : Checked Bool :=
    let word := String.ofList (s.toList.map Char.toLower)
    if word ∈ ["0", "off", "f", "false", "n", "no"] then .ok false
    else if word ∈ ["1", "on", "t", "true", "y", "yes"] then .ok true
    else issue .unreadableBoolean
  match v with
  | .boolean b => .ok b
  | .integer n => ofInteger n
  | .float x =>
    if x.isFinite && (Binary.ofFloat x).isInteger then ofInteger ((Binary.ofFloat x).times 1)
    else issue .notBoolean
  | .text s => ofText ofWord s
  | .bytes data => ofBytes data .unreadableBoolean ofWord
  | _ => issue .notBoolean

/-- The integer that is written as a text. -/
def writtenInteger (s : String) : Checked Int :=
  match readInteger s with
  | .ok n => .ok n
  | .error .tooLong => issue .integerTooLarge
  | .error .unreadable => issue .unreadableInteger

def integer : Value → Checked Int
  | .boolean b => .ok (if b then 1 else 0)
  | .integer n => .ok n
  | .float x =>
    if !x.isFinite then issue .notFinite
    else if !(Binary.ofFloat x).isInteger then issue .fractional
    else
      let n := (Binary.ofFloat x).times 1
      if isWord n ∧ n ≠ leastWord then .ok n else issue .integerTooLarge
  | .text s => ofText writtenInteger s
  | .bytes data => ofBytes data .unreadableInteger writtenInteger
  | _ => issue .notInteger

/-- The float that is written as a text. -/
def writtenFloat (s : String) : Checked Float := (readFloat? s).elim (issue .unreadableFloat) .ok

def float : Value → Checked Float
  | .boolean b => .ok (if b then 1.0 else 0.0)
  | .integer n => if (floatOfInt n).isFinite then .ok (floatOfInt n) else issue .notFloat
  | .float x => .ok x
  | .text s => ofText writtenFloat s
  | .bytes data => ofBytes data .unreadableFloat writtenFloat
  | _ => issue .notFloat

def text : Value → Checked String
  | .text s => .ok s
  | .bytes data => ofBytes data .undecodable .ok
  | _ => issue .notText

def path : Value → Checked Path
  | .text s => .ok (.ofText s)
  | _ => issue .notPath

def list {α : Type} (read : Value → Checked α) : Value → Checked (List α)
  | .list values | .set values => items read values
  | _ => issue .notList

/-- A value that may be left empty. -/
def optional {α : Type} (read : Value → Checked α) : Value → Checked (Option α)
  | .null => .ok none
  | v => (read v).map some

/-- One of some named choices. -/
def choice {α : Type} (choices : List α) (name : α → String) : Value → Checked α
  | .text s => ofText (fun s =>
    (choices.find? fun c => name c == s).elim (issue (.notChoice (choices.map name))) .ok) s
  | _ => issue (.notChoice (choices.map name))

/-- A check of a value that was read. -/
def andThen {α β : Type} (read : Value → Checked α) (check : α → Checked β) (v : Value) :
    Checked β :=
  (read v).bind check

/-- A float above zero; an undefined one is let through. -/
def positiveFloat (rule : Rule) : Value → Checked { x : Float // ¬x ≤ 0.0 } :=
  andThen float fun x => if h : ¬x ≤ 0.0 then .ok ⟨x, h⟩ else broken rule

/-! ## Mappings with known names -/

/-- The entries of a section. -/
def sectionOf {α : Type} (s : Section) (read : List (Value × Value) → Checked α) :
    Value → Checked α
  | .mapping entries => read entries
  | _ => issue (.notSection s)

/-- The entry of a name, which has to be there. -/
def required {α : Type} (entries : List (Value × Value)) (name : String)
    (read : Value → Checked α) : Checked α :=
  under (.name name) ((valueOf? entries name).elim (issue .missing) read)

/-- The entry of a name, or a default. -/
def withDefault {α : Type} (entries : List (Value × Value)) (name : String) (default : α)
    (read : Value → Checked α) : Checked α :=
  (valueOf? entries name).elim (.ok default) fun v => under (.name name) (read v)

end Checked

open Checked

namespace Settings

/-! ## The sections -/

def checkCpu : Value → Checked CpuSettings :=
  sectionOf .cpu fun entries =>
    let one : { x : Float // ¬x ≤ 0.0 } := ⟨1.0, by decide +kernel⟩
    (both (withDefault entries "tick_interval" one (positiveFloat .cpuNotPositive))
      (withDefault entries "multiplier" one (positiveFloat .cpuNotPositive))).map
    fun (tick, multiplier) =>
      { tickInterval := tick.1
        multiplier := multiplier.1
        positive := fun h => h.elim tick.2 multiplier.2 }

def checkBomb : Value → Checked Float :=
  sectionOf .bomb fun entries =>
    withDefault entries "duration" 30.0 fun v => (positiveFloat .bombNotPositive v).map (·.1)

def checkProgram : Value → Checked ProgramSettings :=
  sectionOf .program fun entries =>
    withDefault entries "initial_capacity" .standard (andThen integer fun n =>
      if h : 1 ≤ n then .ok ⟨n, h⟩ else broken .capacityBelowOne)

/-- A text in which three replacement characters stand for each half of a character. -/
def withoutHalves (s : String) : String :=
  String.ofList ((Surrogate.codes s.toList).flatMap fun n =>
    if Surrogate.isCode n then List.replicate 3 '\ufffd' else Surrogate.ofCode n)

/-- The key of an entry, as it is shown on the way to a place. -/
def shownKey : Value → Key
  | .text s => .name (withoutHalves s)
  | .boolean b => .index (if b then 1 else 0)
  | .integer n => if isWord n then .index n else .name (toString n)
  | .float x => .name (Layout.report.render x)
  | .null => .name "None"
  | .bytes data => .bytes data
  | .date d => .date d
  | .moment m => .moment m
  | .list _ | .mapping _ | .set _ => .name ""

/-- One name that is filed under a category. -/
def checkFiledName (category : Category) (name : String) : Except Rule Instruction :=
  match Instruction.ofName? name with
  | none => .error (.unknownInstruction name)
  | some i =>
    if i.category = category then .ok i else .error (.foreignInstruction name category.name)

/-- The names that are filed under one category. -/
def checkFiled (entry : String × List String) : Except Rule (Category × List Instruction) :=
  match Category.ofName? entry.1 with
  | none => .error (.unknownCategory entry.1)
  | some category => (entry.2.mapM (checkFiledName category)).map fun names => (category, names)

/-- A category and the names that are filed under it, as texts. -/
def checkSeedEntry (entry : Value × Value) : Checked (String × List String) :=
  let key := shownKey entry.1
  both (under key (under (.name "[key]") (text entry.1))) (under key (list text entry.2))

/-- Files names under a category, in place of those that are filed there already. -/
def file (table : List (String × List String)) (entry : String × List String) :
    List (String × List String) :=
  if table.any (·.1 = entry.1) then table.map fun e => if e.1 = entry.1 then entry else e
  else table ++ [entry]

def checkSeed : Value → Checked (List (Category × List Instruction))
  | .mapping entries =>
    let filed : Checked (List (String × List String)) := entries.foldr (fun entry rest =>
      (both (checkSeedEntry entry) rest).map fun (first, rest) => first :: rest) (.ok [])
    filed.bind fun filed =>
      match (filed.foldl file []).mapM checkFiled with
      | .ok seed => .ok seed
      | .error rule => broken rule
  | _ => issue .notMapping

def checkUnlocks : Value → Checked (List (Category × List Instruction)) :=
  sectionOf .unlocks fun entries =>
    withDefault entries "seed" [(.movement, [.moveForward])] checkSeed

def checkNode : Value → Checked NodeSettings :=
  sectionOf .upgradeNode fun entries =>
    let free : { n : Int // 0 ≤ n } := ⟨0, by decide⟩
    let cost := andThen integer fun n =>
      if h : 0 ≤ n then .ok (⟨n, h⟩ : { n : Int // 0 ≤ n }) else broken .negativeCost
    (both (required entries "kind" (choice UpgradeKind.all UpgradeKind.name))
      (both (withDefault entries "level" 1 integer) (withDefault entries "cost" free cost))).map
    fun (kind, level, cost) => { kind, level, cost := cost.1, nonnegative := cost.2 }

/-- What a list of prerequisites is read from.  A text gives its characters, bytes their numbers and
a mapping its keys, so none of them gives a prerequisite; what has no items stops the check. -/
def edgeItems : Value → Checked (List Value)
  | .list values | .set values => .ok values
  | .bytes data => .ok (data.map fun b => .integer b.toNat)
  | .text s => .ok ((Surrogate.codes s.toList).map fun n => .text (String.ofList (Surrogate.ofCode n)))
  | .mapping entries => .ok (entries.map (·.1))
  | v => .error (.notIterable v.kind)

def checkEdges : Value → Checked (List (Int × Int)) :=
  andThen (andThen edgeItems (items (list integer))) fun edges =>
    (edges.mapM fun (edge : List Int) => match edge with
      | [source, target] => some (source, target)
      | _ => none).elim (broken .edgeNotPair) .ok

def checkUpgrades : Value → Checked UpgradeSettings :=
  sectionOf .upgrades fun entries =>
    let seed := UpgradeSettings.seed
    (both (withDefault entries "nodes" seed.nodes (list checkNode))
      (both (withDefault entries "edges" seed.edges checkEdges)
        (withDefault entries "roots" seed.roots (list integer)))).map
    fun (nodes, edges, roots) => { nodes, edges, roots }

def checkGear : Value → Checked GearSettings :=
  sectionOf .gear fun entries =>
    let single : { n : Int // 0 < n } := ⟨1, by decide⟩
    let value := andThen integer fun n =>
      if h : 0 < n then .ok (⟨n, h⟩ : { n : Int // 0 < n }) else broken .gearNotPositive
    (both (required entries "position" (list integer))
      (withDefault entries "value" single value)).map
    fun (position, value) => { position, value := value.1, positive := value.2 }

/-- One of the four unit steps along the axes. -/
def checkFacing : Value → Checked Point :=
  andThen (list integer) fun
    | [x, y] => if x.natAbs + y.natAbs = 1 then .ok ⟨x, y⟩ else broken .facingNotUnit
    | _ => broken .facingNotUnit

def checkLevel : Value → Checked LevelSettings :=
  sectionOf .level fun entries =>
    (both (withDefault entries "spawn" [0, 0] (list integer))
      (both (withDefault entries "facing" ⟨1, 0⟩ checkFacing)
        (withDefault entries "gears" [] (list checkGear)))).map
    fun (spawn, facing, gears) => { spawn, facing, gears }

/-- The instruction of a step.  It is looked at also when the step gives none, because some actions
need one. -/
def checkInstruction (action : Option Action) (v : Value) :
    Checked { i : Option Instruction // action = some .add → i.isSome } :=
  andThen (optional text) (fun
    | none =>
      if h : action = some .add then broken .addWithoutInstruction
      else .ok ⟨none, fun a => absurd a h⟩
    | some name =>
      match Instruction.ofName? name with
      | none => broken (.unknownInstruction name)
      | some i => .ok ⟨some i, fun _ => rfl⟩) v

def checkStep : Value → Checked Step :=
  sectionOf .step fun entries =>
    let instruction (action : Option Action) :=
      under (.name "instruction")
        (checkInstruction action ((valueOf? entries "instruction").getD .null))
    let rest :=
      both (withDefault entries "index" none (optional integer))
        (both (withDefault entries "amount" none (optional integer))
          (withDefault entries "seconds" none (optional float)))
    match required entries "action" (choice Action.all Action.name) with
    | .ok action =>
      (both (instruction (some action)) rest).map fun (i, index, amount, seconds) =>
        { action, instruction := i.1, index, amount, seconds
          add_has_instruction := fun h => i.2 (h ▸ rfl) }
    | .error fault =>
      match both (instruction none) rest with
      | .ok _ => .error fault
      | .error more => .error (join fault more)

def checkScript : Value → Checked ScriptSettings :=
  sectionOf .script fun entries =>
    let timing v := (positiveFloat .timingNotPositive v).map (·.1)
    (both (withDefault entries "frame_dt" (1.0 / 60.0) timing)
      (both (withDefault entries "max_run_seconds" 120.0 timing)
        (withDefault entries "steps" [] (list checkStep)))).map
    fun (frameDt, maxRunSeconds, steps) => { frameDt, maxRunSeconds, steps }

def checkOutputs : Value → Checked OutputSettings :=
  sectionOf .outputs fun entries =>
    (both (withDefault entries "run_dir" (.ofText "runs") path)
      (withDefault entries "summarize" true boolean)).map
    fun (runDir, summarize) => { runDir, summarize }

/-- The settings of a mapping from names to sections; unknown names are passed over. -/
def ofEntries? (entries : List (Value × Value)) : Checked Settings :=
  (both (withDefault entries "cpu" .standard checkCpu)
    (both (withDefault entries "bomb" 30.0 checkBomb)
      (both (withDefault entries "program" .standard checkProgram)
        (both (withDefault entries "unlocks" [(.movement, [.moveForward])] checkUnlocks)
          (both (withDefault entries "upgrades" .seed checkUpgrades)
            (both (withDefault entries "level" {} checkLevel)
              (both (withDefault entries "script" {} checkScript)
                (withDefault entries "outputs" {} checkOutputs)))))))).map
  fun (cpu, bombDuration, program, unlockSeed, upgrades, level, script, outputs) =>
    { cpu, bombDuration, program, unlockSeed, upgrades, level, script, outputs }

/-- The settings of a whole document; an empty one stands for all defaults. -/
def ofDocument? (document : Value) : Checked Settings :=
  if document.isVoid then .ok .standard
  else match document with
    | .mapping entries =>
      if entries.all fun (key, _) => key.kind = .text then ofEntries? entries
      else .error .keyNotText
    | _ => .error (.notMapping document.kind)

end Settings

end RobotWorkshop
