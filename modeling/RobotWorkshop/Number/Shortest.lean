import RobotWorkshop.Number.Binary

/-!
The shortest decimal that reads back as a given float.

The reals that round to a float form an interval, from halfway to the neighbour below to halfway
to the neighbour above, its ends included exactly when the mantissa is even
(`Binary.readsBack`).  For 1, 2, … 17 digits the two neighbours of the value on that decimal grid
are tested; the first grid with a hit wins, of two hits the nearer, of two equally near ones the
even one (`Binary.shortest`).
-/

namespace RobotWorkshop

/-- The decimal `digits · 10 ^ exponent`. -/
structure Decimal where
  digits : Nat
  exponent : Int
deriving DecidableEq, Repr

/-- Compares `a · 10 ^ i` with `n · 2 ^ j`, exactly. -/
def compareScaled (a : Nat) (i : Int) (n : Nat) (j : Int) : Ordering :=
  compare (a * Nat.pow 10 i.toNat * Nat.pow 2 (-j).toNat) (n * Nat.pow 2 j.toNat * Nat.pow 10 (-i).toNat)

namespace Binary

/-- The decimal lies among the reals that round to `x`, signs left aside. -/
def readsBack (x : Binary) (d : Decimal) : Bool :=
  let low := if x.narrowBelow then 4 * x.mantissa - 1 else 4 * x.mantissa - 2
  let high := 4 * x.mantissa + 2
  let closed := x.mantissa % 2 == 0
  let below := compareScaled d.digits d.exponent low (x.exponent - 2)
  let above := compareScaled d.digits d.exponent high (x.exponent - 2)
  (below == .gt || (closed && below == .eq)) && (above == .lt || (closed && above == .eq))

/-- The least power of ten above the magnitude, searched upward from `k`. -/
def powerAbove (x : Binary) (k : Int) : (steps : Nat) → Int
  | 0 => k
  | steps + 1 =>
    if compareScaled 1 k x.mantissa x.exponent == .gt then k else x.powerAbove (k + 1) steps

/-- The best decimal of the grid `10 ^ grid` that reads back as `x`, if one of the two neighbours
does. -/
def onGrid (x : Binary) (grid : Int) : Option Decimal :=
  let n := x.ratio.1 * Nat.pow 10 (-grid).toNat
  let d := x.ratio.2 * Nat.pow 10 grid.toNat
  let low : Decimal := ⟨n / d, grid⟩
  let high : Decimal := ⟨n / d + 1, grid⟩
  match x.readsBack low, x.readsBack high with
  | false, false => none
  | true, false => some low
  | false, true => some high
  | true, true =>
    match compare (2 * n) ((2 * (n / d) + 1) * d) with
    | .lt => some low
    | .gt => some high
    | .eq => some (if (n / d) % 2 = 0 then low else high)

/-- The exact value as a decimal. -/
def exactDecimal (x : Binary) : Decimal :=
  if 0 ≤ x.exponent then ⟨x.mantissa * Nat.pow 2 x.exponent.toNat, 0⟩
  else ⟨x.mantissa * Nat.pow 5 (-x.exponent).toNat, x.exponent⟩

/-- The shortest decimal that reads back as `x`; `x` is not zero. -/
def shortest (x : Binary) : Decimal :=
  let estimate := ((x.mantissa.log2 : Int) + x.exponent) * 30103 / 100000 - 1
  let k := x.powerAbove estimate 5
  ((List.range 17).findSome? fun n => x.onGrid (k - (n + 1 : Nat))).getD x.exactDecimal

end Binary

/-- Drops the zeros at the end of the digits; at most as many as there are digits. -/
def Decimal.stripped (d : Decimal) : Decimal :=
  let zeros := ((toString d.digits).toList.reverse.takeWhile (· == '0')).length
  if d.digits = 0 then ⟨0, 0⟩ else ⟨d.digits / Nat.pow 10 zeros, d.exponent + zeros⟩

end RobotWorkshop
