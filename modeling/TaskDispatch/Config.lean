import TaskDispatch.Time.Duration
import TaskDispatch.Json.Record
import TaskDispatch.Text.Blank

/-!
# Processor configuration

How many tasks run at once and how long one fetch may wait. Settings come from named variables or
from a JSON text. A variable holds a whole number in decimal digits, with an optional plus sign and
blanks around it; it must fit 64 bits and be greater than zero.
-/

namespace TaskDispatch

set_option autoImplicit false

structure ProcessorConfig where
  concurrency : UInt64
  positive : concurrency ≠ 0
  dequeueTimeout : Duration
  deriving DecidableEq

inductive ConfigError where
  | invalidNumber (key value : String)
  | zero (key : String)
  deriving DecidableEq, Repr

def ConfigError.message : ConfigError → String
  | .invalidNumber key value =>
      key ++ " must be a positive integer, got " ++ Text.quoted value
  | .zero key => key ++ " must be greater than zero"

namespace ProcessorConfig

def default : ProcessorConfig where
  concurrency := 10
  positive := by decide
  dequeueTimeout := .ofSeconds 5

instance : Inhabited ProcessorConfig := ⟨default⟩

def concurrencyKey : String := "SPINDLE_CONCURRENCY"

def timeoutKey : String := "SPINDLE_DEQUEUE_TIMEOUT_MS"

/-- The value of decimal digits, if there is at least one and nothing else. -/
def decimalValue? (characters : List Char) : Option Nat :=
  if characters ≠ [] ∧ characters.all Char.isDigit then
    some (Decimal.value (characters.map fun character => character.toNat - '0'.toNat))
  else none

/-- The value of an unsigned 64-bit number with an optional plus sign. -/
def wordValue? (characters : List Char) : Option UInt64 := do
  let unsigned :=
    match characters with
    | '+' :: others => others
    | _ => characters
  let value ← decimalValue? unsigned
  if value < Nat.pow 2 64 then some (UInt64.ofNat value) else none

def parsePositive (key raw : String) : Except ConfigError { number : UInt64 // number ≠ 0 } :=
  match wordValue? (Text.trimmed raw.toList) with
  | none => .error (.invalidNumber key raw)
  | some number =>
      if positive : number ≠ 0 then .ok ⟨number, positive⟩ else .error (.zero key)

/-- The settings given by variables; an unset variable keeps its default. -/
def ofLookup (lookup : String → Option String) : Except ConfigError ProcessorConfig := do
  let concurrency : { number : UInt64 // number ≠ 0 } ←
    match lookup concurrencyKey with
    | none => .ok ⟨default.concurrency, default.positive⟩
    | some raw => parsePositive concurrencyKey raw
  let dequeueTimeout ←
    match lookup timeoutKey with
    | none => .ok default.dequeueTimeout
    | some raw => do
        let millis ← parsePositive timeoutKey raw
        .ok (.ofMillis millis.val)
  .ok { concurrency := concurrency.val, positive := concurrency.property, dequeueTimeout }

end ProcessorConfig

namespace Duration

open Json

/-- The JSON form of a duration: seconds and nanoseconds, no other keys. Whole seconds in the
nanoseconds carry over. -/
def codec : Codec Duration :=
  .record
    { expected := "struct Duration"
      lengthText := "struct Duration"
      fields := .cons "secs" .required .word64 (.cons "nanos" .required .word32 .nil)
      closed := true }
    (fun (seconds, nanos, ()) =>
      match ofParts? seconds nanos with
      | some duration => .ok duration
      | none => .error .durationOverflow)
    (fun duration =>
      (UInt64.ofNat duration.seconds, UInt32.ofNat duration.subsecond, ()))

end Duration

namespace ProcessorConfig

open Json

def positiveSize : Codec { number : UInt64 // number ≠ 0 } :=
  .integer "a nonzero usize" (fun size => size.val.toNat) fun number =>
    match Codec.belowBound? (Nat.pow 2 64) number with
    | none => none
    | some value =>
        if positive : UInt64.ofNat value ≠ 0 then some ⟨UInt64.ofNat value, positive⟩ else none

def codec : Codec ProcessorConfig :=
  .record
    { expected := "struct ProcessorConfig"
      lengthText := "struct ProcessorConfig with 2 elements"
      fields :=
        .cons "concurrency" .required positiveSize
          (.cons "dequeue_timeout" .required Duration.codec .nil)
      closed := false }
    (fun (concurrency, dequeueTimeout, ()) =>
      .ok
        { concurrency := concurrency.val
          positive := concurrency.property
          dequeueTimeout })
    (fun config => (⟨config.concurrency, config.positive⟩, config.dequeueTimeout, ()))

end ProcessorConfig

end TaskDispatch
