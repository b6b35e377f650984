import RobotWorkshop.Text.Cases
import RobotWorkshop.Text.Digits
import RobotWorkshop.Yaml.Plain

/-!
The numbers of a document.  Low lines are left out, and a number has at most one sign in front of
what its first characters tell it to be.  The digits that follow may be those of any script, and
may have blanks, a sign and the mark of their base in front of them.
-/

namespace RobotWorkshop.Yaml

namespace Number

/-- The digits of a number in a base. -/
def digit? (base : Nat) (c : Char) : Option Nat := (hexDigit? c).filter (· < base)

/-- Digits of a base without the mark that may stand in front of them. -/
def unmarked (base : Nat) : List Char → List Char
  | '0' :: mark :: rest =>
    let marks := if base = 2 then ['b', 'B'] else if base = 8 then ['o', 'O']
      else if base = 16 then ['x', 'X'] else []
    if mark ∈ marks then rest else '0' :: mark :: rest
  | text => text

/-- The digits of an integer in base ten are limited. -/
def mostDigits : Nat := 4300

/-- The integer that a text stands for in a base. -/
def inBase (base : Nat) (text : List Char) : Result Int :=
  let (negative, rest) := Numeral.signed (plainDigits (trimBlanks text))
  let rest := unmarked base rest
  let count := (rest.takeWhile fun c => (digit? base c).isSome).length
  if base = 10 ∧ mostDigits < count then .error (.tooManyDigits count)
  else if count = 0 ∨ count < rest.length then .error (.notInteger base (String.ofList text))
  else
    let n : Nat := rest.foldl (fun n c => base * n + (digit? base c).getD 0) 0
    .ok (if negative then -(n : Int) else n)

/-- A sign in front of what is read in some way. -/
def withSign {α : Type} (negate : α → α) (read : List Char → Result α) (text : List Char) :
    Result α :=
  match text with
  | [] => .error .emptyNumber
  | text =>
    let (negative, rest) := Numeral.signed text
    (read rest).map fun a => if negative then negate a else a

/-- The sum of the parts of a number in base sixty. -/
def sixties (parts : List Int) : Int := parts.foldl (fun n part => 60 * n + part) 0

/-- What a tag for integers reads from a text. -/
def integer (text : String) : Result Int :=
  withSign (fun (n : Int) => -n) (fun
    | [] => .error .emptyNumber
    | ['0'] => .ok 0
    | '0' :: 'b' :: rest => inBase 2 rest
    | '0' :: 'x' :: rest => inBase 16 rest
    | '0' :: rest => inBase 8 ('0' :: rest)
    | digits =>
      if ':' ∈ digits then ((Plain.colonParts digits).mapM (inBase 10)).map sixties
      else inBase 10 digits) (text.toList.filter (· ≠ '_'))

/-- A float, after blanks and with the digits of any script. -/
def decimal (text : List Char) : Result Float :=
  (Numeral.float? (plainDigits (trimBlanks text))).elim
    (.error (.notFloat (String.ofList text))) .ok

/-- Adds the parts of a float in base sixty, last one first; `unit` is what the first of them is
worth. -/
def addParts (sum : Float) (unit : Nat) : List Float → Result Float
  | [] => .ok sum
  | part :: parts =>
    let worth := floatOfInt unit
    if worth.isFinite then addParts (sum + part * worth) (60 * unit) parts
    else .error .partTooLarge

/-- The characters of a float, as far as they count. -/
def floatChars (text : String) : List Char :=
  (lowerCase (String.ofList (text.toList.filter (· ≠ '_')))).toList

/-- What a tag for floats reads from a text. -/
def float (text : String) : Result Float :=
  withSign (fun (x : Float) => -x) (fun digits =>
    if String.ofList digits = ".inf" then .ok infiniteFloat
    else if String.ofList digits = ".nan" then .ok undefinedFloat
    else if ':' ∈ digits then do
      let parts ← (Plain.colonParts digits).mapM decimal
      addParts 0.0 1 parts.reverse
    else decimal digits) (floatChars text)

/-- Whether a text is the word for the undefined value, which is one and the same everywhere. -/
def isUndefined (text : String) : Bool :=
  String.ofList (Numeral.signed (floatChars text)).2 = ".nan"

end Number

end RobotWorkshop.Yaml
