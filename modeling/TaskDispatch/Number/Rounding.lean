/-!
# Rounding a quotient

Division to the nearest whole number, a half going to the even neighbour. The result is within half
a unit of the quotient.
-/

namespace TaskDispatch

set_option autoImplicit false

/-- The whole number nearest to `numerator / denominator`; of two equally near ones the even one. -/
def roundedQuotient (numerator denominator : Nat) : Nat :=
  let floor := numerator / denominator
  let twice := 2 * (numerator % denominator)
  if twice < denominator then floor
  else if denominator < twice then floor + 1
  else if floor % 2 = 0 then floor
  else floor + 1

/-- The rounding is off by half a unit at most. -/
theorem twice_off_by_rounding_le (numerator denominator : Nat) (positive : 0 < denominator) :
    2 * (roundedQuotient numerator denominator * denominator) ≤ 2 * numerator + denominator ∧
      2 * numerator ≤
        2 * (roundedQuotient numerator denominator * denominator) + denominator := by
  have split := Nat.div_add_mod numerator denominator
  have below := Nat.mod_lt numerator positive
  rw [Nat.mul_comm] at split
  have next : (numerator / denominator + 1) * denominator
      = numerator / denominator * denominator + denominator := Nat.succ_mul _ _
  unfold roundedQuotient
  simp only
  split
  · omega
  · split
    · omega
    · split <;> omega

end TaskDispatch
