import RobotWorkshop.Number.Shortest

/-!
How floats are written: with the fewest digits that identify them (`Layout.render`), or with a
fixed number of places (`fixedPlaces`).  What one output decides for itself is a value of
`Layout`.
-/

namespace RobotWorkshop

/-- What an output decides about its floats. -/
structure Layout where
  /-- Decimal exponents from this one on are written positionally, … -/
  positionalFrom : Int := -4
  /-- … up to and without this one. -/
  positionalBelow : Int := 16
  /-- A single digit before the exponent mark is followed by `.0`. -/
  pointBeforeMark : Bool := false
  infinity : String := "inf"
  undefined : String := "nan"

namespace Layout

/-- Floats in reports, messages and tables: `1.0`, `0.0001`, `1e-05`, `1e+16`, `inf`, `nan`. -/
def report : Layout := {}

/-- The exponent mark: a sign and at least two digits. -/
def mark (e : Int) : String :=
  let digits := toString e.natAbs
  let digits := if digits.length < 2 then "0" ++ digits else digits
  (if e < 0 then "e-" else "e+") ++ digits

/-- A decimal other than zero, its digits without zeros at the end. -/
def decimal (layout : Layout) (d : Decimal) : String :=
  let digits := (toString d.digits).toList
  let zeros (n : Nat) := String.ofList (List.replicate n '0')
  let lead := (digits.length : Int) + d.exponent - 1
  if layout.positionalFrom ≤ lead ∧ lead < layout.positionalBelow then
    if 0 ≤ d.exponent then String.ofList digits ++ zeros d.exponent.toNat ++ ".0"
    else if 0 ≤ lead then
      let whole := lead.toNat + 1
      String.ofList (digits.take whole) ++ "." ++ String.ofList (digits.drop whole)
    else "0." ++ zeros (-lead - 1).toNat ++ String.ofList digits
  else
    match digits with
    | [digit] =>
      String.ofList [digit] ++ (if layout.pointBeforeMark then ".0" else "") ++ mark lead
    | _ => String.ofList (digits.take 1) ++ "." ++ String.ofList (digits.drop 1) ++ mark lead

/-- The text of a float: the fewest digits that read back, zero with its sign. -/
def render (layout : Layout) (x : Float) : String :=
  if x.isNaN then layout.undefined
  else
    let b := Binary.ofFloat x
    let sign := if b.negative then "-" else ""
    if x.isInf then sign ++ layout.infinity
    else if b.mantissa = 0 then sign ++ "0.0"
    else sign ++ layout.decimal b.shortest.stripped

end Layout

/-- The text of a float with the given number of places, rounded from its exact value; a half goes
to the even neighbour, and the sign stays also on a zero. -/
def fixedPlaces (places : Nat) (x : Float) : String :=
  if x.isNaN then "nan"
  else
    let b := Binary.ofFloat x
    let sign := if b.negative then "-" else ""
    if x.isInf then sign ++ "inf"
    else
      let digits := (toString (b.times (Nat.pow 10 places)).natAbs).toList
      let digits := List.replicate (places + 1 - digits.length) '0' ++ digits
      let whole := digits.length - places
      let fraction := if places = 0 then "" else "." ++ String.ofList (digits.drop whole)
      sign ++ String.ofList (digits.take whole) ++ fraction

end RobotWorkshop
