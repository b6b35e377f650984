import RobotWorkshop.Number.Binary
import RobotWorkshop.Text.Blank

/-!
Reading numbers from text.  An integer is a sign and digits (`readInteger`); a float also has a
point and an exponent, or is one of the words for infinity and for an undefined value
(`readFloat?`).  Only the ten ASCII digits count.

A text with blanks around it is read without them.  Low lines are left out of a text that neither
begins nor ends with one and has no two of them in a row; a float with low lines must not have
blanks around it.
-/

namespace RobotWorkshop

namespace Numeral

/-- The number that a list of decimal digits stands for. -/
def value (digits : List Char) : Nat :=
  digits.foldl (fun n c => 10 * n + (c.toNat - '0'.toNat)) 0

/-- A sign, if there is one, and what follows it. -/
def signed : List Char → Bool × List Char
  | '-' :: rest => (true, rest)
  | '+' :: rest => (false, rest)
  | rest => (false, rest)

/-- Whether no two low lines stand next to each other. -/
def hasSingleLows : List Char → Bool
  | '_' :: '_' :: _ => false
  | _ :: rest => hasSingleLows rest
  | [] => true

/-- The text without its low lines, each of which has to stand alone and within the text. -/
def withoutLows? (text : List Char) : Option (List Char) :=
  if text.head? = some '_' ∨ text.getLast? = some '_' ∨ !hasSingleLows text then none
  else some (text.filter (· ≠ '_'))

/-! ## Floats -/

/-- The exponent after a mantissa: nothing, or a mark, a sign and digits. -/
def exponent? : List Char → Option Int
  | [] => some 0
  | mark :: rest =>
    let (negative, digits) := signed rest
    if (mark = 'e' ∨ mark = 'E') ∧ digits ≠ [] ∧ digits.all Char.isDigit then
      some (if negative then -(value digits : Int) else value digits)
    else none

/-- The magnitude of a float: a word, or digits with a point and an exponent. -/
def magnitude? (text : List Char) : Option Float :=
  match String.ofList (text.map Char.toLower) with
  | "inf" | "infinity" => some infiniteFloat
  | "nan" => some undefinedFloat
  | _ =>
    let whole := text.takeWhile Char.isDigit
    let rest := text.dropWhile Char.isDigit
    let (fraction, rest) := match rest with
      | '.' :: rest => (rest.takeWhile Char.isDigit, rest.dropWhile Char.isDigit)
      | rest => ([], rest)
    if whole.isEmpty && fraction.isEmpty then none
    else (exponent? rest).map fun e => floatOfDecimal (value (whole ++ fraction)) (e - fraction.length)

/-- A sign and a magnitude, and nothing else. -/
def float? (text : List Char) : Option Float :=
  let (negative, rest) := signed text
  (magnitude? rest).map fun x => if negative then -x else x

/-! ## Integers -/

/-- The length of the longest integer that is read, its sign included. -/
def longest : Nat := 4300

/-- Why a text is no integer. -/
inductive IntegerFault where
  | unreadable
  | tooLong
deriving DecidableEq, Repr

/-- A minus sign if there is one, and digits without a zero in front. -/
def strictInteger (text : List Char) : Except IntegerFault Int :=
  let (negative, digits) := match text with
    | '-' :: rest => (true, rest)
    | rest => (false, rest)
  if digits.isEmpty || !digits.all Char.isDigit || (digits.head? = some '0' && 1 < digits.length) then
    .error .unreadable
  else if longest < text.length then .error .tooLong
  else .ok (if negative then -(value digits : Int) else value digits)

/-- The text without the zeros in front, among which low lines may stand; the number may have its
sign after them.  A zero stays if nothing else, or a point, follows it. -/
def withoutZeros? : List Char → Option (List Char)
  | [] => none
  | c :: rest =>
    if ('1' ≤ c ∧ c ≤ '9') ∨ c = '-' then some (c :: rest)
    else if c ≠ '0' then none
    else
      let skipped := rest.takeWhile fun c => c = '0' ∨ c = '_'
      let last := ((c :: skipped).getLast?).getD c
      match rest.drop skipped.length with
      | [] => some [last]
      | d :: rest =>
        if ('1' ≤ d ∧ d ≤ '9') ∨ d = '-' then some (d :: rest)
        else if d = '.' then some (last :: d :: rest)
        else none

/-- The text without a point that only zeros follow. -/
def withoutPoint (text : List Char) : List Char :=
  match text.dropWhile (· ≠ '.') with
  | '.' :: zeros =>
    if zeros ≠ [] ∧ zeros.all (· == '0') then text.takeWhile (· ≠ '.') else text
  | _ => text

/-- The text without all that may be left out around and within an integer. -/
def cleaned? (text : List Char) : Option (List Char) := do
  let text := trimBlanks text
  let text ← match text with
    | '+' :: '-' :: _ => none
    | '+' :: rest => some rest
    | rest => some rest
  let text := withoutPoint (← withoutZeros? text)
  return (withoutLows? text).getD text

end Numeral

open Numeral

/-- The integer that a text stands for.  An integer that is written out in full may be too long; of
any other text it only counts that it cannot be read. -/
def readInteger (text : String) : Except IntegerFault Int :=
  match strictInteger text.toList with
  | .ok n => .ok n
  | .error .tooLong => .error .tooLong
  | .error .unreadable =>
    match (cleaned? text.toList).map strictInteger with
    | some (.ok n) => .ok n
    | _ => .error .unreadable

/-- The float that a text stands for. -/
def readFloat? (text : String) : Option Float :=
  float? (trimBlanks text.toList) <|>
    (if text.toList.contains '_' then (withoutLows? text.toList).bind float? else none)

end RobotWorkshop
