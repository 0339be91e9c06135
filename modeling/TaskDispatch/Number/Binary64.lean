import TaskDispatch.Number.Rounding

/-!
# Double precision numbers

The binary interchange format with 53 significant bits, computed exactly: a finite number is
`mantissa * 2 ^ exponent`, and every operation rounds its exact rational result once, to the
nearest representable number, a tie going to the even mantissa. Powers are written as `Nat.pow`, so
that they are the same terms whatever gives a meaning to the operator.
-/

namespace TaskDispatch

set_option autoImplicit false

/-- A double precision number. A finite one stands for `mantissa * 2 ^ exponent`, negated if
`negative`; there are two zeros. -/
inductive Binary64 where
  | nan
  | infinite (negative : Bool)
  | finite (negative : Bool) (mantissa : Nat) (exponent : Int)
  deriving DecidableEq, Repr, Inhabited

namespace Binary64

/-- The least exponent: subnormal numbers are whole multiples of its power of two. -/
def leastExponent : Int := -1074

def greatestExponent : Int := 971

def zero : Binary64 := .finite false 0 leastExponent

/-- `numerator * 2 ^ (-exponent) / denominator` rounded to a whole number. -/
def scaledQuotient (numerator denominator : Nat) (exponent : Int) : Nat :=
  match exponent with
  | .ofNat shift => roundedQuotient numerator (denominator * Nat.pow 2 shift)
  | .negSucc shift => roundedQuotient (numerator * Nat.pow 2 (shift + 1)) denominator

/-- The exponent at which `numerator / denominator` has 53 significant bits, or the least one. The
quotient of the powers of two below both is off by less than a factor of two, so one comparison
settles it. -/
def exponentOf (numerator denominator : Nat) : Int :=
  let guess : Int := (numerator.log2 : Int) - (denominator.log2 : Int) - 52
  let fits : Bool :=
    match guess with
    | .ofNat shift => denominator * Nat.pow 2 (shift + 52) ≤ numerator
    | .negSucc shift => denominator * Nat.pow 2 52 ≤ numerator * Nat.pow 2 (shift + 1)
  max leastExponent (if fits then guess else guess - 1)

/-- The number nearest to `numerator / denominator`, negated if `negative`. What rounds to
`2 ^ 1024` or beyond is infinite. -/
def ofRatio (negative : Bool) (numerator denominator : Nat) : Binary64 :=
  if numerator = 0 then .finite negative 0 leastExponent
  else
    let exponent := exponentOf numerator denominator
    let mantissa := scaledQuotient numerator denominator exponent
    let rounded : Nat × Int :=
      if mantissa = Nat.pow 2 53 then (Nat.pow 2 52, exponent + 1) else (mantissa, exponent)
    if greatestExponent < rounded.2 then .infinite negative
    else .finite negative rounded.1 rounded.2

def ofNat (number : Nat) : Binary64 := ofRatio false number 1

def powerOfTwo : Int → Nat × Nat
  | .ofNat power => (Nat.pow 2 power, 1)
  | .negSucc power => (1, Nat.pow 2 (power + 1))

def magnitude (mantissa : Nat) (exponent : Int) : Nat × Nat :=
  let power := powerOfTwo exponent
  (mantissa * power.1, power.2)

def negate : Binary64 → Binary64
  | .nan => .nan
  | .infinite negative => .infinite (!negative)
  | .finite negative mantissa exponent => .finite (!negative) mantissa exponent

/-- The rounded product. Zero times infinity is no number. -/
def mul : Binary64 → Binary64 → Binary64
  | .nan, _ => .nan
  | _, .nan => .nan
  | .infinite left, .infinite right => .infinite (left != right)
  | .infinite left, .finite right mantissa _ =>
      if mantissa = 0 then .nan else .infinite (left != right)
  | .finite left mantissa _, .infinite right =>
      if mantissa = 0 then .nan else .infinite (left != right)
  | .finite left leftMantissa leftExponent, .finite right rightMantissa rightExponent =>
      let exact := magnitude (leftMantissa * rightMantissa) (leftExponent + rightExponent)
      ofRatio (left != right) exact.1 exact.2

/-- The rounded quotient of two finite numbers, the divisor not being zero. -/
def div : Binary64 → Binary64 → Binary64
  | .finite left leftMantissa leftExponent, .finite right rightMantissa rightExponent =>
      if rightMantissa = 0 then .nan
      else
        let power := powerOfTwo (leftExponent - rightExponent)
        ofRatio (left != right) (leftMantissa * power.1) (rightMantissa * power.2)
  | .finite left _ _, .infinite right => .finite (left != right) 0 leastExponent
  | .infinite left, .finite right _ _ => .infinite (left != right)
  | _, _ => .nan

def addMagnitudes : Binary64 → Binary64 → Binary64
  | .finite _ leftMantissa leftExponent, .finite _ rightMantissa rightExponent =>
      let left := magnitude leftMantissa leftExponent
      let right := magnitude rightMantissa rightExponent
      ofRatio false (left.1 * right.2 + right.1 * left.2) (left.2 * right.2)
  | .nan, _ => .nan
  | _, .nan => .nan
  | .infinite _, _ => .infinite false
  | _, .infinite _ => .infinite false

/-- The powers of `base` with exponent a whole number, by repeated squaring: the result collects
the squares at the exponent's one bits, lowest bit first, each product rounded. -/
def powerBySquaring (base result : Binary64) (exponent : Nat) : Binary64 :=
  let collected := if exponent % 2 = 1 then mul result base else result
  if exponent / 2 = 0 then collected
  else powerBySquaring (mul base base) collected (exponent / 2)
termination_by exponent
decreasing_by omega

def power (base : Binary64) (exponent : Nat) : Binary64 :=
  powerBySquaring base (ofNat 1) exponent

/-- The number with the given interchange bits: sign, eleven bits of exponent, 52 bits of
mantissa. -/
def ofBits (bits : UInt64) : Binary64 :=
  let negative : Bool := bits.toNat / Nat.pow 2 63 % 2 = 1
  let biased : Nat := bits.toNat / Nat.pow 2 52 % Nat.pow 2 11
  let fraction : Nat := bits.toNat % Nat.pow 2 52
  if biased = 2047 then (if fraction = 0 then .infinite negative else .nan)
  else if biased = 0 then .finite negative fraction leastExponent
  else .finite negative (Nat.pow 2 52 + fraction) ((biased : Int) - 1075)

def two : Binary64 := ofNat 2

end Binary64

end TaskDispatch
