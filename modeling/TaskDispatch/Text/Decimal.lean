import TaskDispatch.Text.Bytes

/-!
# Decimal writing of whole numbers

The plain decimal digits of a number, most significant first and without leading zeros, and the
number that a run of digits denotes.
-/

namespace TaskDispatch.Decimal

set_option autoImplicit false

def digits (number : Nat) : List Nat :=
  if number < 10 then [number] else digits (number / 10) ++ [number % 10]

def value (digits : List Nat) : Nat := digits.foldl (fun total digit => total * 10 + digit) 0

def bytes (number : Nat) : Bytes :=
  (digits number).map fun digit => UInt8.ofNat (0x30 + digit)

def signedBytes : Int → Bytes
  | .ofNat number => bytes number
  | .negSucc number => Ascii.minus :: bytes (number + 1)

theorem value_append_digit (leading : List Nat) (last : Nat) :
    value (leading ++ [last]) = value leading * 10 + last := by
  simp [value]

theorem value_digits (number : Nat) : value (digits number) = number := by
  induction number using Nat.strongRecOn with
  | ind number inner =>
      rw [digits]
      split
      · simp [value]
      · rename_i large
        rw [value_append_digit, inner (number / 10) (by omega)]
        omega

theorem digit_lt_ten (number : Nat) : ∀ digit ∈ digits number, digit < 10 := by
  induction number using Nat.strongRecOn with
  | ind number inner =>
      intro digit member
      rw [digits] at member
      split at member
      · simp only [List.mem_singleton] at member
        omega
      · rw [List.mem_append, List.mem_singleton] at member
        rcases member with earlier | last
        · exact inner (number / 10) (by omega) digit earlier
        · omega

end TaskDispatch.Decimal
