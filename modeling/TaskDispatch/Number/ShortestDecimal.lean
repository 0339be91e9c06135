import TaskDispatch.Number.Binary64
import TaskDispatch.Text.Decimal

/-!
# The shortest decimal writing of a double

The fewest digits that read back as the same double; among texts with that many digits the one
nearest to the double. The digits are looked for on the grids of 1, 2, … 17 digits in exact
arithmetic: the interval of reals that round to `mantissa * 2 ^ exponent` reaches half way to both
neighbours and holds its ends if the mantissa is even.
-/

namespace TaskDispatch.Binary64

set_option autoImplicit false

structure Ratio where
  numerator : Nat
  denominator : Nat

namespace Ratio

def le (left right : Ratio) : Bool :=
  left.numerator * right.denominator ≤ right.numerator * left.denominator

def lt (left right : Ratio) : Bool :=
  left.numerator * right.denominator < right.numerator * left.denominator

def ofDecimal (digits : Nat) : Int → Ratio
  | .ofNat power => ⟨digits * Nat.pow 10 power, 1⟩
  | .negSucc power => ⟨digits, Nat.pow 10 (power + 1)⟩

def floorAt (ratio : Ratio) : Int → Nat
  | .ofNat power => ratio.numerator / (ratio.denominator * Nat.pow 10 power)
  | .negSucc power => ratio.numerator * Nat.pow 10 (power + 1) / ratio.denominator

def distance (left right : Ratio) : Ratio :=
  let crossLeft := left.numerator * right.denominator
  let crossRight := right.numerator * left.denominator
  ⟨max crossLeft crossRight - min crossLeft crossRight, left.denominator * right.denominator⟩

end Ratio

/-- The reals that round to one double: the double itself and the ends of the interval. -/
structure Interval where
  centre : Ratio
  low : Ratio
  high : Ratio
  closed : Bool

/-- The interval of a positive double. The neighbour below a power of two is only half as far
away as the one above, except at the least exponent. -/
def interval (mantissa : Nat) (exponent : Int) : Interval :=
  let quarter := powerOfTwo (exponent - 2)
  let lowSteps := if mantissa = Nat.pow 2 52 ∧ leastExponent < exponent then 1 else 2
  { centre := ⟨4 * mantissa * quarter.1, quarter.2⟩
    low := ⟨(4 * mantissa - lowSteps) * quarter.1, quarter.2⟩
    high := ⟨(4 * mantissa + 2) * quarter.1, quarter.2⟩
    closed := mantissa % 2 = 0 }

def Interval.contains (range : Interval) (value : Ratio) : Bool :=
  if range.closed then range.low.le value && value.le range.high
  else range.low.lt value && value.lt range.high

/-- The least power of ten above a positive ratio, found by stepping from an estimate. -/
def decimalMagnitude (value : Ratio) : Nat → Int → Int
  | 0, guess => guess
  | steps + 1, guess =>
      if (Ratio.ofDecimal 1 guess).le value then decimalMagnitude value steps (guess + 1)
      else if value.lt (Ratio.ofDecimal 1 (guess - 1)) then
        decimalMagnitude value steps (guess - 1)
      else guess

/-- The nearer of the value's two neighbours on the grid of multiples of `10 ^ power` that lie in
the interval. -/
def candidateAt (range : Interval) (power : Int) : Option Nat :=
  let below := range.centre.floorAt power
  let above := below + 1
  let belowFits := 0 < below && range.contains (.ofDecimal below power)
  let aboveFits := range.contains (.ofDecimal above power)
  if belowFits && aboveFits then
    let downDistance := range.centre.distance (.ofDecimal below power)
    let upDistance := range.centre.distance (.ofDecimal above power)
    if downDistance.lt upDistance then some below
    else if upDistance.lt downDistance then some above
    else if below % 2 = 0 then some below else some above
  else if belowFits then some below
  else if aboveFits then some above
  else none

/-- The first grid with a hit, from `count` digits upwards. -/
def shortestFrom (range : Interval) (magnitude : Int) : Nat → Nat → Nat × Int
  | 0, count => (range.centre.floorAt (magnitude - count), magnitude - count)
  | tries + 1, count =>
      match candidateAt range (magnitude - count) with
      | some found => (found, magnitude - count)
      | none => shortestFrom range magnitude tries (count + 1)

def withoutTrailingZeros : Nat → Nat → Int → Nat × Int
  | 0, digits, power => (digits, power)
  | steps + 1, digits, power =>
      if digits ≠ 0 ∧ digits % 10 = 0 then
        withoutTrailingZeros steps (digits / 10) (power + 1)
      else (digits, power)

def shortestDigits (mantissa : Nat) (exponent : Int) : Nat × Int :=
  let range := interval mantissa exponent
  let estimate : Int :=
    ((mantissa.log2 : Int) + exponent) * 30103 / 100000
  let magnitude := decimalMagnitude range.centre 8 estimate
  let found := shortestFrom range magnitude 17 1
  withoutTrailingZeros 20 found.1 found.2

/-- How a decimal is laid out: the least and greatest place of the decimal point, counted from
the first digit, that are written positionally. -/
structure Layout where
  leastPoint : Int
  greatestPoint : Int

/-- Numbers from `0.00001` up to below `10 ^ 16` are positional and always show a fraction; others
take an exponent with its sign. -/
def messageLayout : Layout where
  leastPoint := -4
  greatestPoint := 16

def zeros (count : Nat) : String := String.ofList (List.replicate count '0')

def Layout.write (layout : Layout) (digits : Nat) (power : Int) : String :=
  let text := toString digits
  let count := text.length
  let point : Int := count + power
  if layout.leastPoint ≤ point ∧ point ≤ layout.greatestPoint then
    if 0 ≤ power then text ++ zeros power.toNat ++ ".0"
    else if 0 < point then
      String.ofList (text.toList.take point.toNat) ++ "."
        ++ String.ofList (text.toList.drop point.toNat)
    else "0." ++ zeros (-point).toNat ++ text
  else
    let scientific := point - 1
    let fraction := String.ofList (text.toList.drop 1)
    let lead := String.ofList (text.toList.take 1)
    lead ++ (if fraction.isEmpty then "" else "." ++ fraction) ++ "e"
      ++ (if scientific < 0 then "-" else "+") ++ toString scientific.natAbs

/-- The shortest text of a double, always with a decimal point or an exponent. -/
def toText : Binary64 → String
  | .nan => "NaN"
  | .infinite negative => if negative then "-inf" else "inf"
  | .finite negative mantissa exponent =>
      let sign := if negative then "-" else ""
      if mantissa = 0 then sign ++ "0.0"
      else
        let shortest := shortestDigits mantissa exponent
        sign ++ messageLayout.write shortest.1 shortest.2

end TaskDispatch.Binary64
