import RobotWorkshop.Fault
import RobotWorkshop.Number.Binary

/-!
A program: a sequence of instructions that never outgrows its capacity.
-/

namespace RobotWorkshop

structure Program where
  capacity : Int
  sequence : List Instruction
deriving DecidableEq, Repr

namespace Program

def new? (capacity : Int) (sequence : List Instruction) : Except Fault Program :=
  if capacity < 1 then .error .capacityBelowOne
  else if capacity < sequence.length then .error .programTooLong
  else .ok { capacity, sequence }

def length (p : Program) : Nat := p.sequence.length

def full (p : Program) : Bool := p.capacity ≤ p.length

/-- Adds an instruction at the end. -/
def append? (p : Program) (i : Instruction) : Except Fault Program :=
  if p.full then .error (.ofRefusal (.programFull p.capacity))
  else .ok { p with sequence := p.sequence ++ [i] }

/-- Takes out the instruction at an index, counted from zero. -/
def remove? (p : Program) (index : Int) : Except Fault (Instruction × Program) :=
  if index < 0 then .error (.ofRefusal (.noInstructionAt index))
  else match p.sequence[index.toNat]? with
    | none => .error (.ofRefusal (.noInstructionAt index))
    | some i => .ok (i, { p with sequence := p.sequence.eraseIdx index.toNat })

theorem append?_refuses {p : Program} {i : Instruction} {fault : Fault}
    (h : p.append? i = .error fault) : fault.Refuses := by
  unfold append? at h
  split at h
  · exact Except.error.inj h ▸ Fault.ofRefusal_refuses _
  · cases h

theorem remove?_refuses {p : Program} {index : Int} {fault : Fault}
    (h : p.remove? index = .error fault) : fault.Refuses := by
  unfold remove? at h
  split at h
  · exact Except.error.inj h ▸ Fault.ofRefusal_refuses _
  · split at h
    · exact Except.error.inj h ▸ Fault.ofRefusal_refuses _
    · cases h

/-- Multiplies the capacity. -/
def grow? (p : Program) (factor : Int) : Except Fault Program :=
  if factor < 1 then .error .capacityShrinks
  else .ok { p with capacity := p.capacity * factor }

end Program

/-- The item at an index; negative indices count from the end. -/
def itemAt? {α : Type} (items : List α) (index : Int) : Except Fault α :=
  if !isWord index then .error .indexTooLarge
  else
    let i := if index < 0 then index + items.length else index
    if i < 0 then .error .outOfRange
    else match items[i.toNat]? with
      | some x => .ok x
      | none => .error .outOfRange

end RobotWorkshop
