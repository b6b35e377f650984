import RobotWorkshop.Yaml.Fault

/-!
Bytes in base 64: each letter stands for six bits, and four letters for three bytes.  Other
characters are passed over.  The text ends where equals signs fill up a group of four; a group that
is not full is refused.
-/

namespace RobotWorkshop.Yaml.Base64

/-- The six bits of a letter. -/
def letter? (c : Char) : Option Nat :=
  if c.isUpper then some (c.toNat - 'A'.toNat)
  else if c.isLower then some (c.toNat - 'a'.toNat + 26)
  else if c.isDigit then some (c.toNat - '0'.toNat + 52)
  else if c = '+' then some 62
  else if c = '/' then some 63
  else none

/-- The bytes of the letters before, the letters of a group that is not full, and the equals signs
behind them. -/
structure Decoding where
  bytes : List UInt8 := []
  group : List Nat := []
  signs : Nat := 0

/-- The bytes of a group; two letters give one and three give two. -/
def groupBytes (group : List Nat) : List UInt8 :=
  let bits := (group ++ List.replicate (4 - group.length) 0).foldl (fun n d => 64 * n + d) 0
  [bits / 65536, bits / 256 % 256, bits % 256].take (group.length - 1) |>.map UInt8.ofNat

/-- Takes in one letter. -/
def Decoding.push (d : Decoding) (letter : Nat) : Decoding :=
  let group := d.group ++ [letter]
  if group.length = 4 then { bytes := d.bytes ++ groupBytes group }
  else { d with group, signs := 0 }

/-- Goes on with a text. -/
def decodeFrom (d : Decoding) : List Char → Result (List UInt8)
  | [] => if d.group.isEmpty then .ok d.bytes else .error .malformed
  | '=' :: rest =>
    if d.group.length < 2 then decodeFrom d rest
    else if 4 ≤ d.group.length + d.signs + 1 then .ok (d.bytes ++ groupBytes d.group)
    else decodeFrom { d with signs := d.signs + 1 } rest
  | c :: rest =>
    match letter? c with
    | some letter => decodeFrom (d.push letter) rest
    | none => decodeFrom d rest

/-- The bytes that a text stands for; it may hold characters of ASCII only. -/
def decode (text : String) : Result (List UInt8) :=
  if text.toList.all (·.toNat < 128) then decodeFrom {} text.toList else .error .malformed

end RobotWorkshop.Yaml.Base64
