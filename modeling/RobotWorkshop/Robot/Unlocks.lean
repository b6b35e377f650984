import RobotWorkshop.Fault

/-!
The instructions that are available.  The set only grows, and it is kept in the order of
listings, so equal sets are equal lists.
-/

namespace RobotWorkshop

structure Unlocks where
  /-- Without repetition, by category and then by name. -/
  instructions : List Instruction := []
deriving DecidableEq, Repr

namespace Unlocks

instance : Membership Instruction Unlocks := ⟨fun u i => i ∈ u.instructions⟩

instance (i : Instruction) (u : Unlocks) : Decidable (i ∈ u) :=
  inferInstanceAs (Decidable (i ∈ u.instructions))

/-- Makes an instruction available. -/
def unlock (u : Unlocks) (i : Instruction) : Unlocks :=
  ⟨Instruction.all.filter fun j => j = i ∨ j ∈ u⟩

/-- The set of the listed instructions. -/
def ofList (instructions : List Instruction) : Unlocks := instructions.foldl unlock {}

/-- The available instructions of a category, by name. -/
def inCategory (u : Unlocks) (c : Category) : List Instruction :=
  u.instructions.filter (·.category = c)

def require (u : Unlocks) (i : Instruction) : Except Fault Unit :=
  if i ∈ u then .ok () else .error (.refused (.locked i))

theorem require_refuses {u : Unlocks} {i : Instruction} {fault : Fault}
    (h : u.require i = .error fault) : fault.Refuses := by
  unfold require at h
  split at h
  · cases h
  · exact Except.error.inj h ▸ Fault.refused_refuses _

/-- Files one name under the name of a category.  Of two faults the instruction's comes first. -/
def file? (u : Unlocks) (category name : String) : Except Fault Unlocks :=
  match Instruction.parse name with
  | .error f => .error f
  | .ok i =>
    match Category.ofName? category with
    | none => .error (.unknownCategory category)
    | some c => if i.category = c then .ok (u.unlock i) else .error (.foreignInstruction name category)

/-- The set of all names in a table of categories, which is read in order. -/
def ofTable? (table : List (String × List String)) : Except Fault Unlocks :=
  table.foldlM (fun u (category, names) => names.foldlM (file? · category) u) {}

@[simp] theorem mem_unlock {u : Unlocks} {i j : Instruction} : j ∈ u.unlock i ↔ j = i ∨ j ∈ u := by
  show j ∈ (u.unlock i).instructions ↔ _
  simp [unlock, Instruction.mem_all]

end Unlocks

end RobotWorkshop
