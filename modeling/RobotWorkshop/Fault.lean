import RobotWorkshop.Refusal
import RobotWorkshop.Shop.Malformed
import RobotWorkshop.Text.Quoted

/-!
What stops an operation, as opposed to a refusal that is noted and passed over.
-/

namespace RobotWorkshop

/-- The causes that stop an operation. -/
inductive Fault where
  | infiniteTime
  | undefinedTime
  /-- A span of time too large to be told in seconds. -/
  | timeTooLarge
  | timerNotPositive
  | negativeDelta
  | negativeBalance
  | capacityBelowOne
  | programTooLong
  | capacityShrinks
  | cpuNotPositive
  | unknownInstruction (name : String)
  | unknownKind (name : String)
  | unknownCategory (name : String)
  | foreignInstruction (name category : String)
  | outOfRange
  /-- An index beyond the 64-bit range. -/
  | indexTooLarge
  | absentNode (index : Int)
  | counterOutOfRange
  | noRunToFinish
  /-- The clocks of a run are missing while it goes on. -/
  | clocksMissing
  /-- A run is over, but nothing says how it ended. -/
  | noOutcome
  /-- A run goes on after all the frames that were allowed. -/
  | framesSpent
  | unhandledInstruction (shown : String)
  | unhandledUpgrade (shown : String)
  | unhandledCommand (shown : String)
  | malformed (cause : Malformed)
  | refused (cause : Refusal)
  /-- A text would show an integer of too many digits. -/
  | numberTooLong
deriving DecidableEq, Repr

def Fault.message : Fault → String
  | .infiniteTime => "cannot convert float infinity to integer"
  | .undefinedTime => "cannot convert float NaN to integer"
  | .timeTooLarge => "integer division result too large for a float"
  | .timerNotPositive => "timer duration must be positive"
  | .negativeDelta => "frame delta must be non-negative"
  | .negativeBalance => "wallet balance cannot be negative"
  | .capacityBelowOne => "program capacity must be at least 1"
  | .programTooLong => "program longer than its capacity"
  | .capacityShrinks => "capacity can only grow"
  | .cpuNotPositive => "cpu parameters must be strictly positive"
  | .unknownInstruction name => "unknown instruction " ++ quoted name
  | .unknownKind name => quoted name ++ " is not a valid UpgradeKind"
  | .unknownCategory name => quoted name ++ " is not a valid InstructionCategory"
  | .foreignInstruction name category => s!"{name} does not belong to category {category}"
  | .outOfRange => "list index out of range"
  | .indexTooLarge => "cannot fit 'int' into an index-sized integer"
  | .absentNode index => s!"The node {index} is not in the digraph."
  | .counterOutOfRange => "program counter out of range"
  | .noRunToFinish => "finish_run outside a run"
  | .clocksMissing => "the clocks of the run are missing"
  | .noOutcome => "the run has no outcome"
  | .framesSpent => "the run did not end within the frames allowed"
  | .unhandledInstruction shown => "unhandled instruction " ++ shown
  | .unhandledUpgrade shown => "unhandled upgrade " ++ shown
  | .unhandledCommand shown => "unhandled command " ++ shown
  | .malformed cause => cause.message
  | .refused cause => cause.message
  | .numberTooLong => s!"an integer has more than {mostWrittenDigits} digits"

/-- What is raised for a refusal, which is put into words at once. -/
def Fault.ofRefusal (cause : Refusal) : Fault :=
  if cause.wording.isWritable then .refused cause else .numberTooLong

/-- What is raised for a fault of an unlock tree, which is put into words at once. -/
def Fault.ofMalformed (cause : Malformed) : Fault :=
  if cause.wording.isWritable then .malformed cause else .numberTooLong

/-- What is raised for a refusal says why, or is the fault of a number in it. -/
def Fault.Refuses (fault : Fault) : Prop := fault = .numberTooLong ∨ ∃ cause, fault = .refused cause

theorem Fault.refused_refuses (cause : Refusal) : (refused cause).Refuses := .inr ⟨cause, rfl⟩

theorem Fault.ofRefusal_refuses (cause : Refusal) : (ofRefusal cause).Refuses := by
  unfold ofRefusal
  split
  · exact refused_refuses cause
  · exact .inl rfl

/-- A refusal that is raised can be put into words. -/
theorem Fault.ofRefusal_eq_refused_iff {cause raised : Refusal} :
    ofRefusal cause = .refused raised ↔ cause = raised ∧ cause.wording.isWritable = true := by
  unfold ofRefusal
  split <;> simp [*]

theorem Fault.ofRefusal_eq_numberTooLong_iff {cause : Refusal} :
    ofRefusal cause = .numberTooLong ↔ cause.wording.isWritable = false := by
  unfold ofRefusal
  split <;> simp [*]

/-- The instruction of a name. -/
def Instruction.parse (name : String) : Except Fault Instruction :=
  match Instruction.ofName? name with
  | some i => .ok i
  | none => .error (.unknownInstruction name)

end RobotWorkshop
