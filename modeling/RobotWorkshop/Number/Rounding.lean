/-!
Rounding a quotient of integers to the nearest integer.  A half goes to the even neighbour, on
both sides of zero.  Main facts: the result is within half a unit of the quotient
(`roundDiv_near`), and a quotient that is an integer is kept (`roundDiv_mul`).
-/

namespace RobotWorkshop

/-- The integer nearest to `n / d`; a half goes to the even neighbour. -/
def roundDiv (n : Int) (d : Nat) : Int :=
  let q := n / d
  let r := n % d
  if 2 * r < d then q
  else if (d : Int) < 2 * r then q + 1
  else if q % 2 = 0 then q else q + 1

/-- The rounded quotient is within half a unit. -/
theorem roundDiv_near (n : Int) {d : Nat} (hd : 0 < d) :
    2 * (n - d * roundDiv n d) ≤ d ∧ -(d : Int) ≤ 2 * (n - d * roundDiv n d) := by
  have hr := Int.emod_nonneg n (b := d) (by omega)
  have hl := Int.emod_lt_of_pos n (b := d) (by omega)
  have hn := Int.mul_ediv_add_emod n d
  have hs : (d : Int) * (n / d + 1) = d * (n / d) + d := by rw [Int.mul_add, Int.mul_one]
  simp only [roundDiv]
  split
  · omega
  · split
    · rw [hs]; omega
    · split
      · omega
      · rw [hs]; omega

/-- A quotient that is an integer is kept. -/
theorem roundDiv_mul (q : Int) {d : Nat} (hd : 0 < d) : roundDiv (d * q) d = q := by
  have h1 : (d : Int) * q / d = q := Int.mul_ediv_cancel_left q (by omega)
  have h2 : (d : Int) * q % d = 0 := Int.mul_emod_right _ _
  simp only [roundDiv, h1, h2]
  rw [if_pos (by omega)]

end RobotWorkshop
