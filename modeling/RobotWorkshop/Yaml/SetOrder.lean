import RobotWorkshop.Settings.Value

/-!
The order in which a set of numbers is gone through.  Each number has a place in a table with room
for more than twice as many, which its residue decides: whole numbers below the size of the table
come in ascending order.  A place that is taken already is passed over for one close behind it.
Other sets keep the order in which they are written.
-/

namespace RobotWorkshop.Yaml.SetOrder

/-- The modulus of residues, a prime. -/
def modulus : Nat := 0x1FFFFFFFFFFFFFFF

/-- A residue with the sign of its number; minus one is not used. -/
def withSign (negative : Bool) (residue : Nat) : Int :=
  if negative then (if residue = 1 then -2 else -residue) else residue

/-- The residue of a number.  Sixty-one doublings change nothing, so the exponent of a fraction
counts by its own residue. -/
def residue? : Value → Option Int
  | .boolean b => some (if b then 1 else 0)
  | .integer n => some (withSign (n < 0) (n.natAbs % modulus))
  | .float x =>
    if x.isNaN then none
    else if x.isInf then some (if x < 0 then -314159 else 314159)
    else
      let b := Binary.ofFloat x
      let power := Nat.pow 2 (b.exponent.emod 61).toNat
      some (withSign b.negative (b.mantissa * power % modulus))
  | _ => none

/-- The least power of two above a bound, from `size` on. -/
def above (bound : Nat) : (fuel : Nat) → (size : Nat) → Nat
  | 0, size => size
  | fuel + 1, size => if bound < size then size else above bound fuel (2 * size)

/-- The size of a table for some numbers. -/
def tableSize (count : Nat) : Nat := if count < 5 then 8 else above (2 * count) count 8

/-- The places that are looked at in a row. -/
def reach : Nat := 9

/-- The place for a number: the first free one of a row, or else of the row that the further digits
of its residue lead to. -/
def freePlace (table : Array (Option Value)) (digits place : Nat) : (fuel : Nat) → Option Nat
  | 0 => none
  | fuel + 1 =>
    let row := if place + reach < table.size then (List.range (reach + 1)).map (place + ·) else [place]
    match row.find? fun i => (table[i]?).any Option.isNone with
    | some i => some i
    | none =>
      let digits := digits / 32
      freePlace table digits ((place * 5 + 1 + digits) % table.size) fuel

/-- Puts a number of a residue into the table. -/
def insert (table : Array (Option Value)) (entry : Value × Int) : Array (Option Value) :=
  let digits := (entry.2.emod 0x10000000000000000).toNat
  match freePlace table digits (digits % table.size) (table.size + 16) with
  | some i => table.setIfInBounds i (some entry.1)
  | none => table

/-- The items of a set, in the order in which they are gone through. -/
def sorted (items : List Value) : List Value :=
  match items.mapM fun v => (residue? v).map fun n => (v, n) with
  | none => items
  | some entries =>
    let table := Array.replicate (tableSize items.length) (none : Option Value)
    (entries.foldl insert table).toList.filterMap id

end RobotWorkshop.Yaml.SetOrder
