import TaskDispatch.Proofs.Number.Rounded

/-!
# Numbers between bounds

A number that is not negative is enclosed by two rationals; an infinite one counts as enclosed if
the upper bound is beyond the finite numbers. Each operation takes enclosed numbers to an enclosed
result, its bounds wider by the error of one rounding, or not wider at all if they are
representable. Repeated squaring is followed by one induction, whatever is claimed of the powers.
-/

namespace TaskDispatch

set_option autoImplicit false

namespace Binary64

theorem roundoff_pos : 0 < roundoff := zpow_pos two_pos _

theorem roundoff_lt : roundoff < 12 / 10 ^ 17 := by
  unfold roundoff
  norm_num

theorem roundoff_lt_one : roundoff < 1 := roundoff_lt.trans (by norm_num)

theorem least_normal_pos : 0 < leastNormal := zpow_pos two_pos _

theorem least_normal_le_one : leastNormal ≤ 1 := (zpow_lt_one_of_neg₀ one_lt_two (by decide)).le

theorem lt_overflow {exact : ℚ} (small : exact ≤ 2 ^ 100) : exact < overflow := by
  refine small.trans_lt ?_
  rw [← zpow_natCast]
  exact zpow_lt_zpow_right₀ one_lt_two (by decide)

theorem one_lt_overflow : 1 < overflow := lt_overflow (one_le_pow₀ one_le_two)

theorem representable_nat {whole : Nat} (small : whole ≤ 2 ^ 53) : Representable whole :=
  ⟨whole, 0, small, by decide, by simp [value]⟩

theorem representable_two_pow (power : Nat) : Representable (2 ^ power) := by
  refine ⟨1, power, Nat.one_le_two_pow, ?_, ?_⟩
  · exact le_trans (by decide) (Int.natCast_nonneg power)
  · simp [value]

/-- The error of rounding to a number is relative to the value: it is not subnormal, if not zero. -/
def Normal (exact : ℚ) : Prop := exact = 0 ∨ leastNormal ≤ exact

theorem normal_of_one_le {exact : ℚ} (le : 1 ≤ exact) : Normal exact :=
  .inr (least_normal_le_one.trans le)

variable {exact rounded low high : ℚ}

theorem Rounds.eq_of_representable (rounds : Rounds exact rounded)
    (representable : Representable exact) : rounded = exact :=
  le_antisymm (rounds.not_above exact representable le_rfl)
    (rounds.not_below exact representable le_rfl)

theorem Rounds.bounds (rounds : Rounds exact rounded) (normal : Normal exact) :
    exact * (1 - roundoff) ≤ rounded ∧ rounded ≤ exact * (1 + roundoff) := by
  rcases normal with rfl | above
  · have zero := rounds.eq_of_representable (by exact_mod_cast representable_nat (Nat.zero_le _))
    simp [zero]
  · obtain ⟨below, beyond⟩ := abs_le.mp (rounds.near above)
    constructor <;> linarith

/-- Bounds on a value are widened by the error of its rounding. -/
theorem Rounds.widened (rounds : Rounds exact rounded) (normal : Normal exact) (below : low ≤ exact)
    (above : exact ≤ high) :
    low * (1 - roundoff) ≤ rounded ∧ rounded ≤ high * (1 + roundoff) := by
  obtain ⟨notBelow, notAbove⟩ := rounds.bounds normal
  have less := roundoff_lt_one
  have positive := roundoff_pos
  exact ⟨(mul_le_mul_of_nonneg_right below (by linarith)).trans notBelow,
    notAbove.trans (mul_le_mul_of_nonneg_right above (by linarith))⟩

/-- The number is finite, not negative and between the bounds, or infinite, and the upper bound is
too great for a finite number. -/
inductive Within (low high : ℚ) : Binary64 → Prop where
  | infinite (great : overflow ≤ high) : Within low high (.infinite false)
  | finite {mantissa : Nat} {exponent : ℤ} (below : low ≤ value mantissa exponent)
      (above : value mantissa exponent ≤ high) : Within low high (.finite false mantissa exponent)

def Proper : Binary64 → Prop
  | .finite _ mantissa exponent => value mantissa exponent < overflow
  | _ => True

variable {number left right base result : Binary64}

theorem Within.exists_finite (within : Within low high number) (less : high < overflow) :
    ∃ mantissa exponent, number = .finite false mantissa exponent ∧
      low ≤ value mantissa exponent ∧ value mantissa exponent ≤ high := by
  cases within with
  | infinite great => exact absurd great (not_le.mpr less)
  | finite below above => exact ⟨_, _, rfl, below, above⟩

section Operations

variable {numerator denominator : Nat}

theorem of_ratio_within (denominatorPos : 0 < denominator)
    (bounds : ∀ rounded, Rounds (numerator / denominator) rounded →
      low ≤ rounded ∧ rounded ≤ high) :
    Within low high (ofRatio false numerator denominator) := by
  obtain ⟨rounded, rounds, found⟩ := of_ratio_cases false numerator denominatorPos
  obtain ⟨below, above⟩ := bounds rounded rounds
  split at found
  case isTrue =>
    obtain ⟨mantissa, exponent, same, rfl⟩ := found
    rw [same]
    exact .finite below above
  case isFalse great =>
    rw [found]
    exact .infinite ((not_lt.mp great).trans above)

theorem of_ratio_proper (negative : Bool) (numerator : Nat) (denominatorPos : 0 < denominator) :
    Proper (ofRatio negative numerator denominator) := by
  obtain ⟨rounded, _, found⟩ := of_ratio_cases negative numerator denominatorPos
  split at found
  case isTrue less =>
    obtain ⟨mantissa, exponent, same, rfl⟩ := found
    rw [same]
    exact less
  case isFalse =>
    rw [found]
    trivial

theorem of_nat_within (whole : Nat) :
    Within (whole * (1 - roundoff)) (whole * (1 + roundoff)) (ofNat whole) := by
  have normal : Normal whole := by
    rcases whole.eq_zero_or_pos with rfl | positive
    · exact .inl Nat.cast_zero
    · exact normal_of_one_le (by exact_mod_cast positive)
  apply of_ratio_within Nat.one_pos
  intro rounded rounds
  rw [Nat.cast_one, div_one] at rounds
  exact rounds.bounds normal

theorem of_nat_exact {whole : Nat} (small : whole ≤ 2 ^ 53) : Within whole whole (ofNat whole) := by
  apply of_ratio_within Nat.one_pos
  intro rounded rounds
  rw [Nat.cast_one, div_one] at rounds
  have same := rounds.eq_of_representable (representable_nat small)
  exact ⟨same.ge, same.le⟩

theorem of_nat_finite {whole : Nat} (small : whole ≤ 2 ^ 53) :
    ∃ mantissa exponent, ofNat whole = .finite false mantissa exponent ∧
      value mantissa exponent = whole := by
  have below : (whole : ℚ) < overflow := by
    apply lt_overflow
    exact_mod_cast small.trans (Nat.pow_le_pow_right two_pos (by decide))
  obtain ⟨mantissa, exponent, same, low, high⟩ := (of_nat_exact small).exists_finite below
  exact ⟨mantissa, exponent, same, le_antisymm high low⟩

theorem mul_finite_value (leftNegative rightNegative : Bool) (leftMantissa rightMantissa : Nat)
    (leftExponent rightExponent : ℤ) :
    ∃ numerator denominator : Nat, 0 < denominator ∧
      mul (.finite leftNegative leftMantissa leftExponent)
          (.finite rightNegative rightMantissa rightExponent) =
        ofRatio (leftNegative != rightNegative) numerator denominator ∧
      (numerator : ℚ) / denominator =
        value leftMantissa leftExponent * value rightMantissa rightExponent := by
  refine ⟨_, _, magnitude_pos _ _, rfl, ?_⟩
  rw [magnitude_value, value_mul]

variable {leftMantissa rightMantissa : Nat} {leftExponent rightExponent : ℤ}

theorem mul_finite_within
    (bounds : ∀ rounded,
      Rounds (value leftMantissa leftExponent * value rightMantissa rightExponent) rounded →
        low ≤ rounded ∧ rounded ≤ high) :
    Within low high
      (mul (.finite false leftMantissa leftExponent)
        (.finite false rightMantissa rightExponent)) := by
  obtain ⟨numerator, denominator, positive, same, exactValue⟩ :=
    mul_finite_value false false leftMantissa rightMantissa leftExponent rightExponent
  rw [← exactValue] at bounds
  rw [same]
  exact of_ratio_within positive bounds

theorem div_finite_within (divisible : 0 < rightMantissa)
    (bounds : ∀ rounded,
      Rounds (value leftMantissa leftExponent / value rightMantissa rightExponent) rounded →
        low ≤ rounded ∧ rounded ≤ high) :
    Within low high
      (div (.finite false leftMantissa leftExponent)
        (.finite false rightMantissa rightExponent)) := by
  have powerPos := power_of_two_pos (leftExponent - rightExponent)
  have exactValue :
      ((leftMantissa * (powerOfTwo (leftExponent - rightExponent)).1 : Nat) : ℚ) /
          (rightMantissa * (powerOfTwo (leftExponent - rightExponent)).2 : Nat) =
        value leftMantissa leftExponent / value rightMantissa rightExponent := by
    rw [Nat.cast_mul, Nat.cast_mul, mul_div_mul_comm, power_of_two_value, zpow_sub₀ two_ne_zero,
      div_mul_div_comm]
    rfl
  rw [← exactValue] at bounds
  simp only [div, if_neg divisible.ne', bne_self_eq_false]
  exact of_ratio_within (Nat.mul_pos divisible powerPos) bounds

theorem add_finite_within
    (bounds : ∀ rounded,
      Rounds (value leftMantissa leftExponent + value rightMantissa rightExponent) rounded →
        low ≤ rounded ∧ rounded ≤ high) :
    Within low high
      (addMagnitudes (.finite false leftMantissa leftExponent)
        (.finite false rightMantissa rightExponent)) := by
  have leftPos := magnitude_pos leftMantissa leftExponent
  have rightPos := magnitude_pos rightMantissa rightExponent
  rw [← magnitude_value leftMantissa, ← magnitude_value rightMantissa,
    div_add_div _ _ (Nat.cast_pos.mpr leftPos).ne' (Nat.cast_pos.mpr rightPos).ne',
    mul_comm ((magnitude leftMantissa leftExponent).2 : ℚ) _] at bounds
  apply of_ratio_within (Nat.mul_pos leftPos rightPos)
  exact_mod_cast bounds

theorem mul_proper (left right : Binary64) : Proper (mul left right) := by
  cases left with
  | nan => cases right <;> trivial
  | infinite =>
      cases right with
      | nan | infinite => trivial
      | finite negative mantissa =>
          simp only [mul]
          split <;> trivial
  | finite leftNegative leftMantissa leftExponent =>
      cases right with
      | nan => trivial
      | infinite =>
          simp only [mul]
          split <;> trivial
      | finite rightNegative rightMantissa rightExponent =>
          exact of_ratio_proper _ _ (magnitude_pos _ _)

theorem one_le_high (within : Within low high number) (oneLe : 1 ≤ low) : 1 ≤ high := by
  cases within with
  | infinite great => exact one_lt_overflow.le.trans great
  | finite below above => exact oneLe.trans (below.trans above)

theorem mantissa_ne_zero {mantissa : Nat} (exponent : ℤ) (positive : 0 < value mantissa exponent) :
    mantissa ≠ 0 := by
  rintro rfl
  rw [value_zero] at positive
  exact lt_irrefl 0 positive

/-- Factors that are at least one: their product is what rounding makes of values between the
products of the bounds. An infinite factor makes the product infinite. -/
theorem mul_within {leftLow leftHigh rightLow rightHigh : ℚ}
    (leftWithin : Within leftLow leftHigh left) (rightWithin : Within rightLow rightHigh right)
    (leftAtLeastOne : 1 ≤ leftLow) (rightAtLeastOne : 1 ≤ rightLow) (wide : leftHigh * rightHigh ≤ high)
    (bounds : ∀ exact rounded, Rounds exact rounded → leftLow * rightLow ≤ exact →
      exact ≤ leftHigh * rightHigh → low ≤ rounded ∧ rounded ≤ high) :
    Within low high (mul left right) := by
  have leftAboveOne := one_le_high leftWithin leftAtLeastOne
  have rightAboveOne := one_le_high rightWithin rightAtLeastOne
  cases leftWithin with
  | infinite great =>
      have beyond : overflow ≤ high :=
        great.trans ((le_mul_of_one_le_right (by linarith) rightAboveOne).trans wide)
      cases rightWithin with
      | infinite => exact .infinite beyond
      | @finite mantissa exponent below =>
          simp only [mul, if_neg (mantissa_ne_zero exponent (by linarith))]
          exact .infinite beyond
  | @finite leftMantissa leftExponent leftBelow leftAbove =>
      cases rightWithin with
      | infinite great =>
          have beyond : overflow ≤ high :=
            great.trans ((le_mul_of_one_le_left (by linarith) leftAboveOne).trans wide)
          simp only [mul, if_neg (mantissa_ne_zero leftExponent (by linarith))]
          exact .infinite beyond
      | finite rightBelow rightAbove =>
          apply mul_finite_within
          intro rounded rounds
          apply bounds _ _ rounds
          · exact mul_le_mul leftBelow rightBelow (by linarith) (value_nonneg _ _)
          · exact mul_le_mul leftAbove rightAbove (value_nonneg _ _) (by linarith)

end Operations

section Powers

section Squaring

-- What is claimed of the powers by which the result is multiplied is passed on by squaring, and
-- what is claimed of the result by a multiplication with such a power.
variable (Power Result : Nat → Binary64 → Prop)
  (square : ∀ {count : Nat} {base : Binary64}, Power count base →
    Power (count + count) (mul base base))
  (collect : ∀ {counted count : Nat} {result base : Binary64}, Result counted result →
    Power count base → Result (counted + count) (mul result base))

include square collect

/-- Repeated squaring multiplies the exponent of the powers and adds it to that of the result. -/
theorem power_by_squaring_stands (exponent : Nat) {counted count : Nat}
    (power : Power count base) (collected : Result counted result) :
    Result (counted + count * exponent) (powerBySquaring base result exponent) := by
  induction exponent using Nat.strong_induction_on generalizing counted count base result with
  | _ exponent ih =>
      have next : Result (counted + count * (exponent % 2))
          (if exponent % 2 = 1 then mul result base else result) := by
        split
        case isTrue odd =>
          rw [odd, mul_one]
          exact collect collected power
        case isFalse even =>
          rw [Nat.mod_two_not_eq_one.mp even, mul_zero, add_zero]
          exact collected
      rw [powerBySquaring]
      by_cases last : exponent / 2 = 0
      · have whole : exponent % 2 = exponent := by omega
        rw [if_pos last]
        rwa [whole] at next ⊢
      · have rest := ih (exponent / 2) (by omega) (square power) next
        have total : counted + count * (exponent % 2) + (count + count) * (exponent / 2) =
            counted + count * exponent := by
          have halves := Nat.div_add_mod exponent 2
          calc counted + count * (exponent % 2) + (count + count) * (exponent / 2)
              = counted + count * (2 * (exponent / 2) + exponent % 2) := by ring
            _ = counted + count * exponent := by rw [halves]
        rw [if_neg last, ← total]
        exact rest

theorem power_stands (first : Power 1 base) (one : Result 0 (ofNat 1)) (exponent : Nat) :
    Result exponent (power base exponent) := by
  have stands := power_by_squaring_stands Power Result square collect exponent first one
  rwa [zero_add, one_mul] at stands

end Squaring

theorem power_proper (base : Binary64) (exponent : Nat) : Proper (power base exponent) :=
  power_stands (fun _ _ => True) (fun _ => Proper) (fun _ => trivial)
    (fun _ _ => mul_proper _ _) trivial (of_ratio_proper false 1 Nat.one_pos) exponent

theorem mul_two_pows {counted count : Nat} (leftWithin : Within (2 ^ counted) (2 ^ counted) left)
    (rightWithin : Within (2 ^ count) (2 ^ count) right) :
    Within (2 ^ (counted + count)) (2 ^ (counted + count)) (mul left right) := by
  apply mul_within leftWithin rightWithin (one_le_pow₀ one_le_two) (one_le_pow₀ one_le_two)
  · rw [pow_add]
  · intro exact rounded rounds below above
    rw [← pow_add] at below above
    exact ⟨rounds.not_below _ (representable_two_pow _) below,
      rounds.not_above _ (representable_two_pow _) above⟩

/-- Powers of two are exact. -/
theorem power_two_within (exponent : Nat) :
    Within (2 ^ exponent) (2 ^ exponent) (power two exponent) := by
  apply power_stands (fun count => Within (2 ^ count) (2 ^ count))
    (fun count => Within (2 ^ count) (2 ^ count))
  · intro count base power
    exact mul_two_pows power power
  · intro counted count result base collected power
    exact mul_two_pows collected power
  · exact_mod_cast of_nat_exact (Nat.le_self_pow (by decide) 2)
  · exact_mod_cast of_nat_exact Nat.one_le_two_pow

section Growth

theorem times_grown {leftLow leftHigh rightLow rightHigh : ℚ}
    (leftWithin : Within (max 1 leftLow) leftHigh left)
    (rightWithin : Within (max 1 rightLow) rightHigh right) (rightNonneg : 0 ≤ rightLow) :
    Within (max 1 (leftLow * rightLow * (1 - roundoff))) (leftHigh * rightHigh * (1 + roundoff))
      (mul left right) := by
  have leftAboveOne := one_le_high leftWithin (le_max_left _ _)
  have rightAboveOne := one_le_high rightWithin (le_max_left _ _)
  have product := one_le_mul_of_one_le_of_one_le leftAboveOne rightAboveOne
  have positive := roundoff_pos
  apply mul_within leftWithin rightWithin (le_max_left _ _) (le_max_left _ _)
  · exact le_mul_of_one_le_right (zero_le_one.trans product) (le_add_of_nonneg_right positive.le)
  · intro exact rounded rounds below above
    have oneLe : 1 ≤ exact :=
      (one_le_mul_of_one_le_of_one_le (le_max_left _ _) (le_max_left _ _)).trans below
    have lowLe : leftLow * rightLow ≤ exact := by
      refine le_trans ?_ below
      exact mul_le_mul (le_max_right _ _) (le_max_right _ _) rightNonneg
        (zero_le_one.trans (le_max_left _ _))
    obtain ⟨notBelow, notAbove⟩ := rounds.widened (normal_of_one_le oneLe) lowLe above
    have oneLeRounded := rounds.not_below 1 (by exact_mod_cast representable_two_pow 0) oneLe
    exact ⟨max_le oneLeRounded notBelow, notAbove⟩

theorem squared_bound (bound : ℚ) {unit : ℚ} (nonzero : unit ≠ 0) (count : Nat) :
    bound ^ (count + count) / unit = bound ^ count / unit * (bound ^ count / unit) * unit := by
  rw [pow_add]
  field_simp

theorem collected_bound (bound : ℚ) {unit : ℚ} (nonzero : unit ≠ 0) (counted count : Nat) :
    bound ^ (counted + count) = bound ^ counted * (bound ^ count / unit) * unit := by
  rw [pow_add]
  field_simp

/-- The powers of a factor that is at least one: each of the multiplications that make up a power
is off by one rounding. -/
theorem power_grown {mantissa : Nat} {exponent : ℤ} (growing : 1 ≤ value mantissa exponent)
    (count : Nat) :
    Within (max 1 ((value mantissa exponent * (1 - roundoff)) ^ count))
      ((value mantissa exponent * (1 + roundoff)) ^ count)
      (power (.finite false mantissa exponent) count) := by
  have less : 0 < 1 - roundoff := sub_pos.mpr roundoff_lt_one
  have more : 0 < 1 + roundoff := add_pos one_pos roundoff_pos
  have positive : 0 < value mantissa exponent := one_pos.trans_le growing
  generalize least : value mantissa exponent * (1 - roundoff) = slow
  generalize most : value mantissa exponent * (1 + roundoff) = fast
  have slowNonneg (count : Nat) : 0 ≤ slow ^ count / (1 - roundoff) := by
    rw [← least]
    positivity
  -- A power counts one rounding less than its factors, so that there is one left for its use.
  apply power_stands
    (fun count => Within (max 1 (slow ^ count / (1 - roundoff))) (fast ^ count / (1 + roundoff)))
    (fun count => Within (max 1 (slow ^ count)) (fast ^ count))
  · intro count base power
    rw [squared_bound slow less.ne', squared_bound fast more.ne']
    exact times_grown power power (slowNonneg count)
  · intro counted count result base collected power
    rw [collected_bound slow less.ne', collected_bound fast more.ne']
    exact times_grown collected power (slowNonneg count)
  · rw [pow_one, pow_one, ← least, ← most, mul_div_cancel_right₀ _ less.ne',
      mul_div_cancel_right₀ _ more.ne', max_eq_right growing]
    exact .finite le_rfl le_rfl
  · rw [pow_zero, pow_zero, max_self]
    exact_mod_cast of_nat_exact Nat.one_le_two_pow

end Growth

section Decay

def AtMostOne : Binary64 → Prop
  | .finite _ mantissa exponent => value mantissa exponent ≤ 1
  | _ => False

theorem mul_at_most_one (leftSmall : AtMostOne left) (rightSmall : AtMostOne right) :
    AtMostOne (mul left right) := by
  cases left with
  | nan | infinite => cases leftSmall
  | finite leftNegative leftMantissa leftExponent =>
      cases right with
      | nan | infinite => cases rightSmall
      | finite rightNegative rightMantissa rightExponent =>
          obtain ⟨numerator, denominator, positive, same, exactValue⟩ :=
            mul_finite_value leftNegative rightNegative leftMantissa rightMantissa leftExponent
              rightExponent
          obtain ⟨rounded, rounds, found⟩ :=
            of_ratio_cases (leftNegative != rightNegative) numerator positive
          rw [exactValue] at rounds
          have product :=
            mul_le_one₀ leftSmall (value_nonneg rightMantissa rightExponent) rightSmall
          have small := rounds.not_above 1 (by exact_mod_cast representable_two_pow 0) product
          have below : rounded < overflow := small.trans_lt one_lt_overflow
          rw [if_pos below] at found
          obtain ⟨mantissa, exponent, finite, rfl⟩ := found
          rw [same, finite]
          exact small

theorem one_at_most_one : AtMostOne (ofNat 1) := by
  obtain ⟨mantissa, exponent, same, one⟩ := of_nat_finite Nat.one_le_two_pow
  rw [same]
  exact_mod_cast one.le

/-- The powers of a factor that is at most one. -/
theorem power_at_most_one (shrinking : AtMostOne base) (exponent : Nat) :
    AtMostOne (power base exponent) :=
  power_stands (fun _ => AtMostOne) (fun _ => AtMostOne)
    (fun power => mul_at_most_one power power) mul_at_most_one shrinking one_at_most_one exponent

end Decay

end Powers

end Binary64

end TaskDispatch
