import TaskDispatch.Time.Duration

/-!
# Points in time

A timestamp is a wall clock time in nanoseconds since 1970-01-01T00:00:00Z, between the years
-262143 and 262142. A moment is what the two clocks show at once: the monotonic clock, which
deadlines are measured on, and the wall clock, which decides whether a scheduled retry is due.
-/

namespace TaskDispatch

set_option autoImplicit false

abbrev earliestNanos : Int := -8334601228800000000000

abbrev latestNanos : Int := 8210266876799999999999

structure Timestamp where
  nanos : Int
  notEarlier : earliestNanos ≤ nanos
  notLater : nanos ≤ latestNanos
  deriving DecidableEq

namespace Timestamp

def latest : Timestamp := ⟨latestNanos, by decide, by decide⟩

def epoch : Timestamp := ⟨0, by decide, by decide⟩

instance : Inhabited Timestamp := ⟨epoch⟩

def ofNanos? (nanos : Int) : Option Timestamp :=
  if notEarlier : earliestNanos ≤ nanos then
    if notLater : nanos ≤ latestNanos then some ⟨nanos, notEarlier, notLater⟩ else none
  else none

instance : LE Timestamp := ⟨fun left right => left.nanos ≤ right.nanos⟩

instance : LT Timestamp := ⟨fun left right => left.nanos < right.nanos⟩

instance (left right : Timestamp) : Decidable (left ≤ right) :=
  inferInstanceAs (Decidable (left.nanos ≤ right.nanos))

instance (left right : Timestamp) : Decidable (left < right) :=
  inferInstanceAs (Decidable (left.nanos < right.nanos))

/-- The whole seconds since the epoch, rounded down. -/
def seconds (time : Timestamp) : Int := Int.fdiv time.nanos nanosPerSecond

def subsecond (time : Timestamp) : Int := Int.fmod time.nanos nanosPerSecond

/-- That much later, but never beyond the latest timestamp. -/
def later (time : Timestamp) (delay : Duration) : Timestamp :=
  if notLater : time.nanos + delay.nanos ≤ latestNanos then
    ⟨time.nanos + delay.nanos, by have := time.notEarlier; omega, notLater⟩
  else latest

/-- The nanoseconds from one timestamp to another one, none if that is not later. -/
def nanosUntil (start finish : Timestamp) : Nat := (finish.nanos - start.nanos).toNat

end Timestamp

/-- The readings of both clocks: the monotonic clock in nanoseconds since the program began, and
the wall clock. -/
structure Moment where
  clock : Nat
  wall : Timestamp
  deriving DecidableEq, Inhabited

/-- The monotonic clock counts seconds in 63 bits. -/
abbrev clockLimit : Nat := 9223372036854775808000000000

/-- The clock reading after a wait, unless the clock cannot show it. -/
def Moment.deadline? (now : Moment) (wait : Duration) : Option Nat :=
  if now.clock + wait.nanos < clockLimit then some (now.clock + wait.nanos) else none

end TaskDispatch
