import RobotWorkshop.Number.Numeral
import RobotWorkshop.Yaml.Scalar
import RobotWorkshop.Yaml.Tag

/-!
What a plain scalar stands for: a truth value, a number, nothing, a moment in time, or else a text.
Numbers may hold low lines.  Integers are also written in base two, eight (after a zero), sixteen
and, with colons, sixty; floats have a point, and a sign in their exponent.  A line feed at the end
does not count.
-/

namespace RobotWorkshop.Yaml

namespace Plain

def trueWords : List String := ["yes", "Yes", "YES", "true", "True", "TRUE", "on", "On", "ON"]

def falseWords : List String := ["no", "No", "NO", "false", "False", "FALSE", "off", "Off", "OFF"]

def nullWords : List String := ["", "~", "null", "Null", "NULL"]

def unsigned (text : List Char) : List Char := (Numeral.signed text).2

/-- Digits and low lines, a digit first. -/
def isDigits : List Char → Bool
  | c :: rest => c.isDigit && rest.all fun c => c.isDigit || c == '_'
  | [] => false

/-- The parts of a text between colons. -/
def colonParts (text : List Char) : List (List Char) :=
  (String.ofList text).splitOn ":" |>.map String.toList

/-- A number below sixty, of one or two digits. -/
def isSixtieth : List Char → Bool
  | [c] => c.isDigit
  | [c, d] => '0' ≤ c && c ≤ '5' && d.isDigit
  | _ => false

/-- A first part, and at least one more part below sixty. -/
def isSexagesimal (text : List Char) : Bool :=
  match colonParts text with
  | first :: second :: rest => isDigits first && (second :: rest).all isSixtieth
  | _ => false

def isInteger (text : List Char) : Bool :=
  let low (p : Char → Bool) (cs : List Char) := !cs.isEmpty && cs.all fun c => p c || c == '_'
  match unsigned text with
  | ['0'] => true
  | '0' :: 'b' :: rest => low (fun c => c == '0' || c == '1') rest
  | '0' :: 'x' :: rest => low (fun c => (hexDigit? c).isSome) rest
  | '0' :: rest => low (fun c => '0' ≤ c && c ≤ '7') rest
  | digits => isDigits digits || isSexagesimal digits

/-- A mark, a sign and digits, or nothing. -/
def isExponent : List Char → Bool
  | [] => true
  | mark :: sign :: digits =>
    (mark == 'e' || mark == 'E') && (sign == '+' || sign == '-') && !digits.isEmpty &&
      digits.all Char.isDigit
  | _ => false

def isFloat (text : List Char) : Bool :=
  let digitsOrLow (c : Char) := c.isDigit || c == '_'
  let body := unsigned text
  if String.ofList body ∈ [".inf", ".Inf", ".INF"] then true
  else if String.ofList text ∈ [".nan", ".NaN", ".NAN"] then true
  else
    let whole := body.takeWhile (· ≠ '.')
    match body.dropWhile (· ≠ '.') with
    | '.' :: rest =>
      let exponent := rest.dropWhile digitsOrLow
      if whole.isEmpty then
        (text.head?.any (· == '.')) && (rest.head?.any Char.isDigit) && isExponent exponent
      else if isDigits whole then isExponent exponent
      else isSexagesimal whole && exponent.isEmpty
    | _ => false

/-! ## Moments -/

/-- Between `least` and `most` digits, as many as there are, and what follows them. -/
def digits? (least most : Nat) (text : List Char) : Option (Nat × List Char) :=
  let run := (text.take most).takeWhile Char.isDigit
  if run.length < least then none else some (Numeral.value run, text.drop run.length)

def char? (p : Char → Bool) : List Char → Option (List Char)
  | c :: rest => if p c then some rest else none
  | [] => none

/-- An offset from universal time, as it is written. -/
structure Zone where
  behind : Bool
  hours : Nat
  minutes : Nat
deriving DecidableEq, Repr

/-- A time of day, as it is written. -/
structure Clock where
  hour : Nat
  minute : Nat
  second : Nat
  /-- The digits behind the point. -/
  fraction : List Char
  zone : Option Zone
deriving DecidableEq, Repr

/-- A moment, as it is written; a date may stand alone. -/
structure Stamp where
  year : Nat
  month : Nat
  day : Nat
  /-- The date fills ten characters. -/
  isFull : Bool
  clock : Option Clock
deriving DecidableEq, Repr

def isTabOrSpace (c : Char) : Bool := c == ' ' || c == '\t'

/-- The end of a moment: nothing, the mark of universal time, or an offset from it. -/
def zone? (text : List Char) : Option (Option Zone) :=
  if text.isEmpty then some none
  else match text.dropWhile isTabOrSpace with
    | ['Z'] => some (some ⟨false, 0, 0⟩)
    | sign :: rest =>
      if sign ≠ '+' ∧ sign ≠ '-' then none
      else match digits? 1 2 rest with
        | some (hours, []) => some (some ⟨sign = '-', hours, 0⟩)
        | some (hours, ':' :: rest) =>
          match digits? 2 2 rest with
          | some (minutes, []) => some (some ⟨sign = '-', hours, minutes⟩)
          | _ => none
        | _ => none
    | [] => none

/-- A time of day, behind the mark or the blanks that set it off. -/
def clock? (text : List Char) : Option Clock := do
  let (hour, rest) ← digits? 1 2 text
  let rest ← char? (· == ':') rest
  let (minute, rest) ← digits? 2 2 rest
  let rest ← char? (· == ':') rest
  let (second, rest) ← digits? 2 2 rest
  let (fraction, rest) := match rest with
    | '.' :: rest => (rest.takeWhile Char.isDigit, rest.dropWhile Char.isDigit)
    | rest => ([], rest)
  let zone ← zone? rest
  return { hour, minute, second, fraction, zone }

/-- The text without a line feed at its end. -/
def withoutBreak (text : List Char) : List Char :=
  if text.getLast? = some '\n' then text.dropLast else text

/-- Reads a date, or a date and a time of day. -/
def stamp? (text : List Char) : Option Stamp := do
  let text := withoutBreak text
  let (year, rest) ← digits? 4 4 text
  let rest ← char? (· == '-') rest
  let (month, rest) ← digits? 1 2 rest
  let rest ← char? (· == '-') rest
  let (day, rest) ← digits? 1 2 rest
  let isFull := text.length - rest.length = 10
  match rest with
  | [] => return { year, month, day, isFull, clock := none }
  | c :: after =>
    let after ← if c == 'T' || c == 't' then some after
      else if isTabOrSpace c then some (rest.dropWhile isTabOrSpace) else none
    return { year, month, day, isFull, clock := some (← clock? after) }

/-- A date that stands alone is a moment only if all of its digits are there. -/
def isMoment (text : List Char) : Bool :=
  (stamp? text).any fun stamp => stamp.isFull || stamp.clock.isSome

end Plain

/-! ## The choice -/

/-- What a plain scalar stands for. -/
def Tag.ofPlain (text : String) : Tag :=
  let chars := if text = "\n" then ['\n'] else Plain.withoutBreak text.toList
  let text := String.ofList chars
  if text ∈ Plain.trueWords ∨ text ∈ Plain.falseWords then .boolean
  else if Plain.isFloat chars then .float
  else if Plain.isInteger chars then .integer
  else if text = "<<" then .merge
  else if text ∈ Plain.nullWords then .null
  else if Plain.isMoment chars then .moment
  else if text = "=" then .standard
  else .text

end RobotWorkshop.Yaml
