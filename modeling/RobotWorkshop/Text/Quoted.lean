import RobotWorkshop.Text.Printable
import RobotWorkshop.Text.Surrogate

/-!
Text between quotes, as messages show it: single quotes, or double ones for a text that holds a
single quote and no double one.  A backslash, the enclosing quote, line ends, tabs and everything
that is not printable are escaped.
-/

namespace RobotWorkshop

/-- A number in lower-case hexadecimal, with at least `width` digits. -/
def hexadecimal (width n : Nat) : List Char :=
  let digits := Nat.toDigits 16 n
  List.replicate (width - digits.length) '0' ++ digits

namespace Quoted

/-- The written form of the character of a number between two `quote`s. -/
def escape (quote : Char) (n : Nat) : List Char :=
  if n = quote.toNat then ['\\', quote]
  else if n = '\\'.toNat then ['\\', '\\']
  else if n = '\n'.toNat then ['\\', 'n']
  else if n = '\r'.toNat then ['\\', 'r']
  else if n = '\t'.toNat then ['\\', 't']
  else if isPrintable n then Surrogate.ofCode n
  else if n < 0x100 then '\\' :: 'x' :: hexadecimal 2 n
  else if n < 0x10000 then '\\' :: 'u' :: hexadecimal 4 n
  else '\\' :: 'U' :: hexadecimal 8 n

/-- The quote that encloses a text. -/
def mark (text : List Char) : Char :=
  if '\'' ∈ text ∧ '"' ∉ text then '"' else '\''

end Quoted

/-- A text between quotes. -/
def quoted (text : String) : String :=
  let chars := text.toList
  let quote := Quoted.mark chars
  String.ofList (quote :: (Surrogate.codes chars).flatMap (Quoted.escape quote) ++ [quote])

end RobotWorkshop
