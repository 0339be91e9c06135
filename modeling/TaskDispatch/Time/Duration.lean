import TaskDispatch.Number.Binary64

/-!
# Durations

A span of time in whole nanoseconds, shorter than `2 ^ 64` seconds, with its conversion from and
to a double precision number of seconds.
-/

namespace TaskDispatch

set_option autoImplicit false

abbrev nanosPerSecond : Nat := 1000000000

abbrev nanosPerMilli : Nat := 1000000

/-- No duration has this many nanoseconds: they are those of `2 ^ 64` seconds. -/
abbrev durationLimit : Nat := 18446744073709551616000000000

structure Duration where
  nanos : Nat
  inRange : nanos < durationLimit
  deriving DecidableEq

namespace Duration

def zero : Duration := ⟨0, by decide⟩

instance : Inhabited Duration := ⟨zero⟩

def ofNanos? (nanos : Nat) : Option Duration :=
  if inRange : nanos < durationLimit then some ⟨nanos, inRange⟩ else none

/-- A duration given by seconds and nanoseconds; whole seconds in the nanoseconds carry over. -/
def ofParts? (seconds : UInt64) (nanos : UInt32) : Option Duration :=
  ofNanos? (seconds.toNat * nanosPerSecond + nanos.toNat)

def ofSeconds (seconds : UInt64) : Duration where
  nanos := seconds.toNat * nanosPerSecond
  inRange := by
    have bound := seconds.toNat_lt
    simp only [durationLimit, nanosPerSecond]
    omega

def ofMillis (millis : UInt64) : Duration where
  nanos := millis.toNat * nanosPerMilli
  inRange := by
    have bound := millis.toNat_lt
    simp only [durationLimit, nanosPerMilli]
    omega

def seconds (duration : Duration) : Nat := duration.nanos / nanosPerSecond

def subsecond (duration : Duration) : Nat := duration.nanos % nanosPerSecond

def millis (duration : Duration) : Nat := duration.nanos / nanosPerMilli

instance : LE Duration := ⟨fun left right => left.nanos ≤ right.nanos⟩

instance (left right : Duration) : Decidable (left ≤ right) :=
  inferInstanceAs (Decidable (left.nanos ≤ right.nanos))

def shorter (left right : Duration) : Duration := if left ≤ right then left else right

def add? (left right : Duration) : Option Duration := ofNanos? (left.nanos + right.nanos)

/-- The number of seconds in double precision: the whole seconds and the fraction are converted
each, then added. -/
def toBinary64 (duration : Duration) : Binary64 :=
  .addMagnitudes (.ofNat duration.seconds)
    (.div (.ofNat duration.subsecond) (.ofNat nanosPerSecond))

/-- The duration nearest to a number of seconds, a half nanosecond going to the even neighbour.
There is none for a negative number, for one of `2 ^ 64` or more, and for what is no finite
number; negative zero counts as zero. -/
def ofBinary64? : Binary64 → Option Duration
  | .finite negative mantissa exponent =>
      if negative && mantissa != 0 then none
      else
        let exact := Binary64.magnitude mantissa exponent
        ofNanos? (roundedQuotient (exact.1 * nanosPerSecond) exact.2)
  | _ => none

end Duration

end TaskDispatch
