import RobotWorkshop.Number.Rounding

/-!
The exact value behind a float, and the float nearest to an exact value.

A finite float is `± mantissa · 2 ^ exponent` (`Binary`).  `Binary.times` rounds a multiple of it
to an integer, and `Float.ofRatio` goes the other way: the float nearest to a quotient of
integers, a half going to the even mantissa, and infinity past the largest finite value.
-/

namespace RobotWorkshop

/-- The bit in front of the 52 bits of a fraction. -/
def leadingBit : Nat := 0x10000000000000

/-- A finite float, read exactly: `± mantissa · 2 ^ exponent`. -/
structure Binary where
  negative : Bool
  mantissa : Nat
  exponent : Int
  /-- The gap to the value below is half the gap to the value above. -/
  narrowBelow : Bool
deriving DecidableEq, Repr

namespace Binary

/-- The fields of the 64 bits: sign, 11 bits of exponent, 52 bits of fraction. -/
def ofBits (bits : UInt64) : Binary :=
  let e := ((bits >>> 52) &&& 0x7FF).toNat
  let f := (bits &&& 0xFFFFFFFFFFFFF).toNat
  let negative := bits >>> 63 == 1
  if e == 0 then ⟨negative, f, -1074, false⟩
  else ⟨negative, leadingBit + f, (e : Int) - 1075, f == 0 && e > 1⟩

/-- The value of a float that is neither infinite nor undefined. -/
def ofFloat (x : Float) : Binary := ofBits x.toBits

/-- The magnitude as a quotient of naturals. -/
def ratio (x : Binary) : Nat × Nat :=
  (x.mantissa * Nat.pow 2 x.exponent.toNat, Nat.pow 2 (-x.exponent).toNat)

/-- `k` times the value, rounded to the nearest integer. -/
def times (x : Binary) (k : Nat) : Int :=
  let r := roundDiv (x.ratio.1 * k) x.ratio.2
  if x.negative then -r else r

/-- Whether the value is an integer. -/
def isInteger (x : Binary) : Bool := x.ratio.1 % x.ratio.2 == 0

end Binary

/-! ## From an exact quotient to a float -/

/-- The bits of the float nearest to `n / d`, for `n` and `d` positive.  The exponent is the one
that gives the mantissa 53 bits, or the least one; a mantissa that rounds up to 54 bits carries
into the exponent field by itself. -/
def ratioBits (n d : Nat) : Nat :=
  let l := (n.log2 : Int) - d.log2
  let top := if d * Nat.pow 2 l.toNat ≤ n * Nat.pow 2 (-l).toNat then l else l - 1
  let e := max (top - 52) (-1074)
  let m := (roundDiv (n * Nat.pow 2 (-e).toNat) (d * Nat.pow 2 e.toNat)).toNat
  min ((e + 1074).toNat * leadingBit + m) 0x7FF0000000000000

/-- The float nearest to `n / d`; zero over anything is positive zero. -/
def floatOfRatio (n : Int) (d : Nat) : Float :=
  if n = 0 then 0.0
  else
    let magnitude := Float.ofBits (ratioBits n.natAbs d).toUInt64
    if n < 0 then -magnitude else magnitude

/-- The float nearest to an integer. -/
def floatOfInt (n : Int) : Float := floatOfRatio n 1

/-- Positive infinity. -/
def infiniteFloat : Float := 1.0 / 0.0

/-- A result that is not a number. -/
def undefinedFloat : Float := 0.0 / 0.0

/-- The float nearest to `digits · 10 ^ exponent`.  Beyond ten thousand places the answer is zero or
infinity without writing the power out. -/
def floatOfDecimal (digits : Nat) (exponent : Int) : Float :=
  if digits = 0 then 0.0
  else if exponent + digits.log2 < -10000 then 0.0
  else if 10000 < exponent then infiniteFloat
  else floatOfRatio (digits * Nat.pow 10 exponent.toNat) (Nat.pow 10 (-exponent).toNat)

/-- The float nearest to the decimal of `places` places nearest to `x`. -/
def roundToPlaces (places : Nat) (x : Float) : Float :=
  if x.isFinite then
    let b := Binary.ofFloat x
    let magnitude := floatOfRatio (b.times (Nat.pow 10 places)).natAbs (Nat.pow 10 places)
    if b.negative then -magnitude else magnitude
  else x

/-! ## Integers of a machine -/

/-- The least integer of 64 bits. -/
def leastWord : Int := -0x8000000000000000

/-- Whether an integer fits into 64 bits, one of them for the sign. -/
def isWord (n : Int) : Bool := leastWord ≤ n && n ≤ 0x7FFFFFFFFFFFFFFF

end RobotWorkshop
