import RobotWorkshop.Text.Quoted

/-!
Why a text gives no document.
-/

namespace RobotWorkshop.Yaml

inductive DocumentFault where
  /-- The text is no document, or holds a value that has no reading. -/
  | malformed
  /-- The number of an escape is that of no character. -/
  | noCharacter
  /-- The number of an escape has more than 31 bits. -/
  | escapeTooLarge
  /-- Digits that are none of their base. -/
  | notInteger (base : Nat) (digits : String)
  | tooManyDigits (count : Nat)
  | notFloat (text : String)
  /-- A part of a float in base sixty is worth more than a float can hold. -/
  | partTooLarge
  | notBoolean (word : String)
  /-- A number without any text. -/
  | emptyNumber
  | notMoment
  /-- A mapping stands where a moment is to be read. -/
  | momentOfMapping
  /-- An offset from universal time of a day or more, in seconds. -/
  | offsetOutOfRange (offset : Int)
  | yearOutOfRange (year : Nat)
  | monthOutOfRange
  | dayOutOfRange
  | hourOutOfRange
  | minuteOutOfRange
  | secondOutOfRange
deriving DecidableEq, Repr

def DocumentFault.message : DocumentFault → String
  | .malformed => "the text is no document"
  | .noCharacter => "the number of an escape is that of no character"
  | .escapeTooLarge => "the number of an escape is too large"
  | .notInteger base digits => s!"{quoted digits} is no integer in base {base}"
  | .tooManyDigits count => s!"an integer has {count} digits"
  | .notFloat text => "could not convert string to float: " ++ quoted text
  | .partTooLarge => "int too large to convert to float"
  | .notBoolean word => quoted word ++ " is no truth value"
  | .emptyNumber => "a number is empty"
  | .notMoment => "a moment is none"
  | .momentOfMapping => "a moment is a mapping"
  | .offsetOutOfRange offset => s!"an offset of {offset} seconds is a day or more"
  | .yearOutOfRange year => s!"year {year} is out of range"
  | .monthOutOfRange => "month must be in 1..12"
  | .dayOutOfRange => "day is out of range for month"
  | .hourOutOfRange => "hour must be in 0..23"
  | .minuteOutOfRange => "minute must be in 0..59"
  | .secondOutOfRange => "second must be in 0..59"

/-- A reading of a text or of a part of a document. -/
abbrev Result (α : Type) := Except DocumentFault α

/-- A part that is there; a text in which it is missing is malformed. -/
def known {α : Type} (part : Option α) : Result α := part.elim (.error .malformed) .ok

end RobotWorkshop.Yaml
