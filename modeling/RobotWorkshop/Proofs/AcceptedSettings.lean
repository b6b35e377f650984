import RobotWorkshop.CommandLine.Reply
import RobotWorkshop.Proofs.CycleSearch
import RobotWorkshop.Proofs.Parameters

/-!
A game from settings that were accepted.  What the checks let through, the constructors of the parts
let through as well: each instruction is filed under its own category (`Settings.WellFiled`), the
parameters of the processor and the capacity are above zero.  Only two things are left for a
constructor to find,

    the unlock tree may be malformed,
    a position may have fewer than two coordinates        (LevelSettings.HasPoints)

and nothing checks the second one before the level is made.  So the verdict on the unlock tree is
the verdict on the game just if a game with a sound tree has only whole positions
(`Session.verdictAgrees_iff`).
-/

namespace RobotWorkshop

/-! ## What the checks let through -/

namespace Checked

variable {α β : Type} {P : α → Prop} {a : α}

theorem both_eq_ok {first : Checked α} {second : Checked β} {b : β}
    (h : both first second = .ok (a, b)) : first = .ok a ∧ second = .ok b := by
  cases first with
  | error fault => cases second <;> cases h
  | ok a' =>
    cases second with
    | error fault => cases h
    | ok b' =>
      cases h
      exact ⟨rfl, rfl⟩

theorem under_eq_ok {key : Key} {checked : Checked α} (h : under key checked = .ok a) :
    checked = .ok a := by
  cases checked with
  | error fault => cases fault <;> cases h
  | ok a' => exact h

/-- What holds of the default, and of all that is read, holds of an entry. -/
theorem withDefault_spec {entries : List (Value × Value)} {name : String} {default : α}
    {read : Value → Checked α} (of_default : P default) (of_read : ∀ v a, read v = .ok a → P a)
    (h : withDefault entries name default read = .ok a) : P a := by
  unfold withDefault at h
  cases entry : valueOf? entries name with
  | none =>
    rw [entry] at h
    obtain rfl := Except.ok.inj h
    exact of_default
  | some v =>
    rw [entry] at h
    exact of_read v a (under_eq_ok h)

theorem sectionOf_spec {s : Section} {read : List (Value × Value) → Checked α} {v : Value}
    (of_read : ∀ entries a, read entries = .ok a → P a) (h : sectionOf s read v = .ok a) : P a := by
  unfold sectionOf at h
  split at h
  · exact of_read _ a h
  · cases h

end Checked

namespace Settings

open Checked

/-- Every instruction is filed under its own category. -/
def WellFiled (seed : List (Category × List Instruction)) : Prop :=
  ∀ entry ∈ seed, ∀ i ∈ entry.2, i.category = entry.1

theorem checkFiledName_eq_ok {category : Category} {name : String} {i : Instruction}
    (h : checkFiledName category name = .ok i) : i.category = category := by
  unfold checkFiledName at h
  split at h
  · cases h
  · split at h
    · rename_i own
      exact Except.ok.inj h ▸ own
    · cases h

theorem checkFiled_eq_ok {names : String × List String} {entry : Category × List Instruction}
    (h : checkFiled names = .ok entry) : ∀ i ∈ entry.2, i.category = entry.1 := by
  unfold checkFiled at h
  split at h
  · cases h
  · obtain ⟨instructions, read, rfl⟩ := map_eq_ok h
    intro i mem
    obtain ⟨name, -, named⟩ := of_mem_mapM read mem
    exact checkFiledName_eq_ok named

theorem checkSeed_eq_ok {v : Value} {seed : List (Category × List Instruction)}
    (h : checkSeed v = .ok seed) : WellFiled seed := by
  unfold checkSeed at h
  split at h
  · obtain ⟨filed, -, h⟩ := bind_eq_ok h
    split at h
    · rename_i checked
      obtain rfl := Except.ok.inj h
      intro entry mem
      obtain ⟨names, -, filed⟩ := of_mem_mapM checked mem
      exact checkFiled_eq_ok filed
    · cases h
  · cases h

/-- **What is accepted** files every instruction under its own category. -/
theorem wellFiled_of_accepted {document : Value} {settings : Settings}
    (accepted : ofDocument? document = .ok settings) : WellFiled settings.unlockSeed := by
  have standard : WellFiled [(.movement, [.moveForward])] := by
    simp [WellFiled, Instruction.category]
  unfold ofDocument? at accepted
  split at accepted
  · obtain rfl := Except.ok.inj accepted
    exact standard
  · split at accepted
    · split at accepted
      · obtain ⟨⟨cpu, bomb, program, unlocks, rest⟩, sections, rfl⟩ := map_eq_ok accepted
        obtain ⟨-, sections⟩ := both_eq_ok sections
        obtain ⟨-, sections⟩ := both_eq_ok sections
        obtain ⟨-, sections⟩ := both_eq_ok sections
        obtain ⟨unlocks_read, -⟩ := both_eq_ok sections
        refine withDefault_spec standard (fun v seed read => ?_) unlocks_read
        refine sectionOf_spec (fun entries seed read => ?_) read
        exact withDefault_spec standard (fun v seed read => checkSeed_eq_ok read) read
      · cases accepted
    · cases accepted

end Settings

/-! ## What the constructors let through -/

theorem Unlocks.exists_fileAll (u : Unlocks) {category : Category} {is : List Instruction}
    (own : ∀ i ∈ is, i.category = category) :
    ∃ v, (is.map Instruction.name).foldlM (file? · category.name) u = .ok v := by
  induction is generalizing u with
  | nil => exact ⟨u, rfl⟩
  | cons i is ih =>
    have filed : u.file? category.name i.name = .ok (u.unlock i) := by
      simp [file?, Instruction.parse, own i List.mem_cons_self]
    obtain ⟨v, others⟩ := ih (u.unlock i) fun j mem => own j (List.mem_cons_of_mem i mem)
    refine ⟨v, ?_⟩
    rw [List.map_cons, List.foldlM_cons, filed]
    exact others

/-- A table in which everything is filed under its own category can be read. -/
theorem Unlocks.exists_readTable {seed : List (Category × List Instruction)}
    (filed : Settings.WellFiled seed) (u : Unlocks) :
    ∃ v, (seed.map fun (category, instructions) =>
      (category.name, instructions.map Instruction.name)).foldlM
        (fun u (category, names) => names.foldlM (file? · category) u) u = .ok v := by
  induction seed generalizing u with
  | nil => exact ⟨u, rfl⟩
  | cons entry seed ih =>
    obtain ⟨w, first⟩ := u.exists_fileAll (filed entry List.mem_cons_self)
    obtain ⟨v, others⟩ := ih (fun e mem => filed e (List.mem_cons_of_mem entry mem)) w
    refine ⟨v, ?_⟩
    rw [List.map_cons, List.foldlM_cons]
    dsimp only
    rw [first]
    exact others

theorem Unlocks.exists_ofTable? {seed : List (Category × List Instruction)}
    (filed : Settings.WellFiled seed) :
    ∃ v, ofTable? (seed.map fun (category, instructions) =>
      (category.name, instructions.map Instruction.name)) = .ok v :=
  exists_readTable filed {}

theorem CpuSettings.new?_eq_ok (settings : CpuSettings) :
    Cpu.new? settings.tickInterval settings.multiplier =
      .ok { tickInterval := settings.tickInterval, multiplier := settings.multiplier } :=
  if_neg settings.positive

theorem ProgramSettings.new?_eq_ok (settings : ProgramSettings) :
    Program.new? settings.initialCapacity [] =
      .ok { capacity := settings.initialCapacity, sequence := [] } := by
  have positive := settings.positive
  unfold Program.new?
  rw [if_neg (by omega), if_neg (by simp; omega)]

/-- With accepted settings the holdings are made just if the unlock tree is. -/
theorem Holdings.ofSettings?_of_wellFiled {settings : Settings}
    (filed : Settings.WellFiled settings.unlockSeed) :
    (∀ graph, UpgradeGraph.ofSettings? settings.upgrades = .ok graph →
      ∃ h, Holdings.ofSettings? settings = .ok h) ∧
    ∀ fault, UpgradeGraph.ofSettings? settings.upgrades = .error fault →
      Holdings.ofSettings? settings = .error fault := by
  obtain ⟨unlocks, read⟩ := Unlocks.exists_ofTable? filed
  have steps : Holdings.ofSettings? settings =
      (UpgradeGraph.ofSettings? settings.upgrades).map fun upgrades =>
        { wallet := {}, unlocks, upgrades, bombDuration := settings.bombDuration
          cpu := { tickInterval := settings.cpu.tickInterval, multiplier := settings.cpu.multiplier }
          program := { capacity := settings.program.initialCapacity, sequence := [] } } := by
    unfold ofSettings?
    rw [read, settings.cpu.new?_eq_ok, settings.program.new?_eq_ok]
    rfl
  rw [steps]
  refine ⟨fun graph made => ?_, fun fault failed => ?_⟩
  · rw [made]
    exact ⟨_, rfl⟩
  · rw [failed]
    rfl

/-! ## Positions -/

/-- Every position has two coordinates. -/
def LevelSettings.HasPoints (l : LevelSettings) : Prop :=
  2 ≤ l.spawn.length ∧ ∀ gear ∈ l.gears, 2 ≤ gear.position.length

instance : DecidablePred LevelSettings.HasPoints := fun l =>
  inferInstanceAs (Decidable (2 ≤ l.spawn.length ∧ ∀ gear ∈ l.gears, 2 ≤ gear.position.length))

theorem Point.ofCoordinates?_of_two {coordinates : List Int} (two : 2 ≤ coordinates.length) :
    ∃ p, Point.ofCoordinates? coordinates = .ok p := by
  match coordinates with
  | x :: y :: _ => exact ⟨⟨x, y⟩, rfl⟩
  | [_] | [] => simp at two

theorem Point.ofCoordinates?_of_few {coordinates : List Int} (few : ¬2 ≤ coordinates.length) :
    Point.ofCoordinates? coordinates = .error .outOfRange := by
  match coordinates with
  | x :: y :: _ => simp at few
  | [_] | [] => rfl

/-- The cell of a gear, with its value. -/
def GearSettings.placed? (gear : GearSettings) : Except Fault (Point × Int) :=
  (Point.ofCoordinates? gear.position).map fun cell => (cell, gear.value)

theorem placed_of_two {gears : List GearSettings} (two : ∀ gear ∈ gears, 2 ≤ gear.position.length) :
    ∃ cells, gears.mapM GearSettings.placed? = .ok cells := by
  induction gears with
  | nil => exact ⟨[], rfl⟩
  | cons gear gears ih =>
    obtain ⟨cell, first⟩ := Point.ofCoordinates?_of_two (two gear List.mem_cons_self)
    obtain ⟨cells, others⟩ := ih fun g mem => two g (List.mem_cons_of_mem gear mem)
    have placed : gear.placed? = .ok (cell, gear.value) := by rw [GearSettings.placed?, first]; rfl
    exact ⟨(cell, gear.value) :: cells, by rw [List.mapM_cons, placed, others]; rfl⟩

theorem placed_of_few {gears : List GearSettings}
    (few : ¬∀ gear ∈ gears, 2 ≤ gear.position.length) :
    gears.mapM GearSettings.placed? = .error .outOfRange := by
  induction gears with
  | nil => exact absurd (fun _ mem => nomatch mem) few
  | cons gear gears ih =>
    rw [List.mapM_cons]
    by_cases first : 2 ≤ gear.position.length
    · obtain ⟨cell, found⟩ := Point.ofCoordinates?_of_two first
      have rest := ih fun all => few (List.forall_mem_cons.mpr ⟨first, all⟩)
      rw [GearSettings.placed?, found, rest]
      rfl
    · rw [GearSettings.placed?, Point.ofCoordinates?_of_few first]
      rfl

/-- **A level** is made just if every position has two coordinates. -/
theorem Level.ofSettings?_of_hasPoints (settings : LevelSettings) :
    (settings.HasPoints → ∃ level, Level.ofSettings? settings = .ok level) ∧
      (¬settings.HasPoints → Level.ofSettings? settings = .error .outOfRange) := by
  have steps : Level.ofSettings? settings =
      settings.gears.mapM GearSettings.placed? >>= fun gears =>
        (Point.ofCoordinates? settings.spawn).map fun spawn =>
          { spawn, facing := settings.facing, layout := Gears.ofList gears } := by
    unfold ofSettings?
    refine congrArg (settings.gears.mapM GearSettings.placed? >>= ·) (funext fun gears => ?_)
    cases Point.ofCoordinates? settings.spawn <;> rfl
  rw [steps]
  constructor
  · rintro ⟨spawn, gears⟩
    obtain ⟨cells, placed⟩ := placed_of_two gears
    obtain ⟨start, found⟩ := Point.ofCoordinates?_of_two spawn
    rw [placed, found]
    exact ⟨_, rfl⟩
  · intro few
    by_cases gears : ∀ gear ∈ settings.gears, 2 ≤ gear.position.length
    · obtain ⟨cells, placed⟩ := placed_of_two gears
      have spawn : ¬2 ≤ settings.spawn.length := fun two => few ⟨two, gears⟩
      rw [placed, Point.ofCoordinates?_of_few spawn]
      rfl
    · rw [placed_of_few gears]
      rfl

/-! ## Games -/

/-- Looking at the unlock tree of some settings ends well just if there is one, and something can be
said of it. -/
theorem CommandLine.withUpgrades_code (tree : Tree) (settings : Settings)
    (lines : UpgradeGraph → Except Fault (List String)) :
    (withUpgrades tree settings lines).ending.code = 0 ↔
      ∃ graph said,
        UpgradeGraph.ofSettings? settings.upgrades = .ok graph ∧ lines graph = .ok said := by
  unfold withUpgrades
  cases made : UpgradeGraph.ofSettings? settings.upgrades with
  | error fault =>
    refine ⟨fun zero => ?_, fun ⟨_, _, found, _⟩ => nomatch found⟩
    cases fault <;> cases zero
  | ok graph =>
    cases said : lines graph with
    | ok said' =>
      refine ⟨fun _ => ⟨graph, said', rfl, said⟩, fun _ => ?_⟩
      simp [Except.bind, said]
      rfl
    | error fault =>
      constructor
      · intro zero
        simp only [Except.bind, said] at zero
        cases fault <;> cases zero
      · rintro ⟨_, _, same, told⟩
        obtain rfl := Except.ok.inj same
        cases said.symm.trans told

/-- So does the command that checks settings, once they are loaded. -/
theorem CommandLine.perform_validate {arguments : List String} {path : Option Path} {tree : Tree}
    {settings : Settings} (frames : Nat)
    (request : Request.ofArguments? arguments = .ok (.validate path))
    (loaded : loadSettings tree path = .ok settings) :
    (perform frames tree arguments).ending.code = 0 ↔
      ∃ graph, UpgradeGraph.ofSettings? settings.upgrades = .ok graph := by
  simp only [perform, request, loaded, withUpgrades_code]
  simp

namespace Session

/-- The unlock tree of some settings is made just if a game is, and a game that is not made is
reported as one with a malformed tree. -/
def VerdictAgrees (settings : Settings) : Prop :=
  ((∃ graph, UpgradeGraph.ofSettings? settings.upgrades = .ok graph) ↔
    ∃ s, Session.ofSettings? settings = .ok s) ∧
  ∀ fault, Session.ofSettings? settings = .error fault →
    ∃ cause, cause ≠ .unfoundCycle ∧ fault = .malformed cause

theorem VerdictAgrees.of_made {settings : Settings} {graph : UpgradeGraph} {s : Session}
    (tree : UpgradeGraph.ofSettings? settings.upgrades = .ok graph)
    (made : Session.ofSettings? settings = .ok s) : VerdictAgrees settings := by
  refine ⟨⟨fun _ => ⟨s, made⟩, fun _ => ⟨graph, tree⟩⟩, fun fault failed => ?_⟩
  rw [made] at failed
  cases failed

theorem VerdictAgrees.of_malformed {settings : Settings} {cause : Malformed} {fault : Fault}
    (bad : UpgradeGraph.ofSettings? settings.upgrades = .error fault)
    (failed : Session.ofSettings? settings = .error (.malformed cause))
    (found : cause ≠ .unfoundCycle) : VerdictAgrees settings := by
  refine ⟨⟨fun ⟨graph, made⟩ => ?_, fun ⟨s, made⟩ => ?_⟩, fun fault failed' => ?_⟩
  · rw [bad] at made
    cases made
  · rw [failed] at made
    cases made
  · rw [failed] at failed'
    exact ⟨cause, found, (Except.error.inj failed').symm⟩

/-- What comes of accepted settings. -/
theorem ofSettings?_of_accepted {document : Value} {settings : Settings}
    (accepted : Settings.ofDocument? document = .ok settings) :
    (∀ fault, UpgradeGraph.ofSettings? settings.upgrades = .error fault →
      Session.ofSettings? settings = .error fault) ∧
    ∀ graph, UpgradeGraph.ofSettings? settings.upgrades = .ok graph →
      (settings.level.HasPoints → ∃ s, Session.ofSettings? settings = .ok s) ∧
      (¬settings.level.HasPoints → Session.ofSettings? settings = .error .outOfRange) := by
  obtain ⟨made, malformed⟩ :=
    Holdings.ofSettings?_of_wellFiled (Settings.wellFiled_of_accepted accepted)
  obtain ⟨whole, short⟩ := Level.ofSettings?_of_hasPoints settings.level
  refine ⟨fun fault bad => ?_, fun graph good => ⟨fun points => ?_, fun few => ?_⟩⟩
  · rw [Session.ofSettings?, malformed fault bad]
    rfl
  · obtain ⟨holdings, owned⟩ := made graph good
    obtain ⟨level, laid_out⟩ := whole points
    exact ⟨Session.new holdings level, by rw [Session.ofSettings?, owned, laid_out]; rfl⟩
  · obtain ⟨holdings, owned⟩ := made graph good
    rw [Session.ofSettings?, owned, short few]
    rfl

/-- **When the verdict on the tree is the verdict on the game.**  For accepted settings it is so
just if every position has two coordinates or the tree is turned down, and that with a cause that
can be put into words.  A game with a tree that is turned down is reported with the same fault; one
with a sound tree and a short position is stopped by an index out of range, although the command
that checks settings ends well. -/
theorem verdictAgrees_iff {document : Value} {settings : Settings}
    (accepted : Settings.ofDocument? document = .ok settings) :
    (VerdictAgrees settings ↔
      (∀ graph, UpgradeGraph.ofSettings? settings.upgrades = .ok graph → settings.level.HasPoints) ∧
        UpgradeGraph.ofSettings? settings.upgrades ≠ .error .numberTooLong) ∧
    (∀ fault, UpgradeGraph.ofSettings? settings.upgrades = .error fault →
      Session.ofSettings? settings = .error fault ∧
        ((∃ cause, cause ≠ .unfoundCycle ∧ fault = .malformed cause) ∨ fault = .numberTooLong)) ∧
    (∀ graph, UpgradeGraph.ofSettings? settings.upgrades = .ok graph → ¬settings.level.HasPoints →
      Session.ofSettings? settings = .error .outOfRange) ∧
    ∀ frames tree path arguments,
      CommandLine.Request.ofArguments? arguments = .ok (.validate path) →
      CommandLine.loadSettings tree path = .ok settings →
      ((CommandLine.perform frames tree arguments).ending.code = 0 ↔
        ∃ graph, UpgradeGraph.ofSettings? settings.upgrades = .ok graph) := by
  obtain ⟨turned_down, sound⟩ := ofSettings?_of_accepted accepted
  refine ⟨⟨?_, fun ⟨points, told⟩ => ?_⟩,
    fun fault bad => ⟨turned_down fault bad, UpgradeGraph.new?_error bad⟩,
    fun graph good => (sound graph good).2, fun frames tree path arguments request loaded =>
      CommandLine.perform_validate frames request loaded⟩
  · rintro ⟨agree, reported⟩
    refine ⟨fun graph good => ?_, fun long => ?_⟩
    · by_contra few
      obtain ⟨s, made⟩ := agree.mp ⟨graph, good⟩
      rw [(sound graph good).2 few] at made
      cases made
    · obtain ⟨cause, -, same⟩ := reported _ (turned_down _ long)
      cases same
  · cases tree : UpgradeGraph.ofSettings? settings.upgrades with
    | ok graph =>
      obtain ⟨s, made⟩ := (sound graph tree).1 (points graph tree)
      exact .of_made tree made
    | error fault =>
      rcases UpgradeGraph.new?_error tree with ⟨cause, found, rfl⟩ | rfl
      · exact .of_malformed tree (turned_down _ tree) found
      · exact absurd tree told

/-- Settings with two gears, one of them at a position with one coordinate too many. -/
def twoGears : Value :=
  .record [("level", .record [("gears", .list [
    .record [("position", .list [.integer 1, .integer 0])],
    .record [("position", .list [.integer 2, .integer 0, .integer 5]), ("value", .integer 3)]])])]

theorem verdictAgrees_two_gears :
    ∃ settings, Settings.ofDocument? twoGears = .ok settings ∧ VerdictAgrees settings := by
  have evaluated : (Settings.ofDocument? twoGears).toOption.any (fun settings =>
      settings.level.HasPoints ∧
        (UpgradeGraph.ofSettings? settings.upgrades).isOk = true) = true := by
    decide +kernel
  obtain ⟨settings, accepted, found⟩ := of_any_toOption evaluated
  obtain ⟨points, sound⟩ := of_decide_eq_true found
  refine ⟨settings, accepted, (verdictAgrees_iff accepted).1.mpr ⟨fun _ _ => points, fun long => ?_⟩⟩
  rw [long] at sound
  cases sound

/-- Settings that give the robot one coordinate to start at. -/
def shortSpawn : Value := .record [("level", .record [("spawn", .list [.integer 1])])]

/-- They are accepted and their tree is sound, but they give no game, and this is not reported as a
malformed tree. -/
theorem verdict_differs_short_spawn :
    ∃ settings graph, Settings.ofDocument? shortSpawn = .ok settings ∧
      UpgradeGraph.ofSettings? settings.upgrades = .ok graph ∧
      Session.ofSettings? settings = .error .outOfRange ∧ ¬VerdictAgrees settings := by
  have evaluated : (Settings.ofDocument? shortSpawn).toOption.any (fun settings =>
      (UpgradeGraph.ofSettings? settings.upgrades).isOk = true ∧
        ¬settings.level.HasPoints) = true := by
    decide +kernel
  obtain ⟨settings, accepted, found⟩ := of_any_toOption evaluated
  obtain ⟨sound, short⟩ := of_decide_eq_true found
  cases tree : UpgradeGraph.ofSettings? settings.upgrades with
  | error cause => rw [tree] at sound; cases sound
  | ok graph =>
    have stopped := ((ofSettings?_of_accepted accepted).2 graph tree).2 short
    refine ⟨settings, graph, accepted, tree, stopped, fun ⟨_, reported⟩ => ?_⟩
    obtain ⟨cause, -, same⟩ := reported _ stopped
    cases same

end Session

end RobotWorkshop
