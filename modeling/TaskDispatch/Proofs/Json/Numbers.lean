import TaskDispatch.Proofs.Json.Faithful

/-!
# Whole numbers are read back

The decimal writing of a number has no leading zero and nothing but digits, and what may follow it is
no digit, no point and no exponent. So the digits are read up to their end, and as long as they stay
below `2 ^ 64` they are collected to the number that they denote. Behind a minus sign they are the
digits of a negative integer, down to `-2 ^ 63`.
-/

namespace TaskDispatch

set_option autoImplicit false

namespace Decimal

theorem digit_byte_is_digit :
    ∀ digit < 10, Ascii.isDigit (UInt8.ofNat (0x30 + digit)) = true := by decide

theorem digit_of_digit_byte :
    ∀ digit < 10, Ascii.digitValue (UInt8.ofNat (0x30 + digit)) = digit := by decide

theorem digits_ne_nil (number : Nat) : digits number ≠ [] := by
  rw [digits]
  split <;> simp

/-- A number of several digits does not begin with zero. -/
theorem alone_of_leading_zero (number : Nat) :
    ∀ others, digits number = 0 :: others → others = [] := by
  induction number using Nat.strongRecOn with
  | ind number inner =>
    intro others shape
    rw [digits] at shape
    split at shape
    case isTrue => exact (List.cons.inj shape).2.symm
    case isFalse large =>
      obtain ⟨first, more, upper⟩ := List.exists_cons_of_ne_nil (digits_ne_nil (number / 10))
      rw [upper, List.cons_append] at shape
      obtain ⟨rfl, -⟩ := List.cons.inj shape
      have alone := inner (number / 10) (by omega) more upper
      have upperValue := value_digits (number / 10)
      rw [upper, alone] at upperValue
      have zero : (0 : Nat) = number / 10 := upperValue
      omega

theorem bytes_are_digits (number : Nat) : ∀ byte ∈ bytes number, Ascii.isDigit byte = true := by
  intro byte member
  obtain ⟨digit, digitMember, rfl⟩ := List.mem_map.mp member
  exact digit_byte_is_digit digit (digit_lt_ten number digit digitMember)

theorem digits_of_bytes (number : Nat) : (bytes number).map Ascii.digitValue = digits number := by
  unfold bytes
  rw [List.map_map]
  calc
    (digits number).map (Ascii.digitValue ∘ fun digit => UInt8.ofNat (0x30 + digit))
        = (digits number).map id :=
      List.map_congr_left fun digit member =>
        digit_of_digit_byte digit (digit_lt_ten number digit member)
    _ = digits number := List.map_id _

theorem bytes_begin (number : Nat) : ∃ first others,
    bytes number = first :: others ∧ Ascii.isDigit first = true := by
  obtain ⟨digit, more, shape⟩ := List.exists_cons_of_ne_nil (digits_ne_nil number)
  have small := digit_lt_ten number digit (by rw [shape]; exact List.mem_cons_self ..)
  refine ⟨UInt8.ofNat (0x30 + digit), more.map fun next => UInt8.ofNat (0x30 + next), ?_,
    digit_byte_is_digit digit small⟩
  unfold bytes
  rw [shape, List.map_cons]

theorem bytes_are_text (number : Nat) : Bytes.IsText (bytes number) := by
  apply Bytes.is_text_of_ascii
  intro byte member
  have digit := bytes_are_digits number byte member
  have upper : byte ≤ 0x39 := by
    unfold Ascii.isDigit at digit
    rw [Bool.and_eq_true, decide_eq_true_eq, decide_eq_true_eq] at digit
    exact digit.2
  exact UInt8.lt_of_le_of_lt upper (by decide)

end Decimal

namespace Json

theorem start_le_collected (digits : List Nat) (start : Nat) :
    start ≤ digits.foldl (fun total digit => total * 10 + digit) start := by
  induction digits generalizing start with
  | nil => exact Nat.le_refl _
  | cons digit digits ih =>
    have next := ih (start * 10 + digit)
    rw [List.foldl_cons]
    omega

/-- Digits below the limit are all collected. -/
theorem collected_within (digits : List Nat) (start : Nat)
    (fits : digits.foldl (fun total digit => total * 10 + digit) start ≤ significandLimit) :
    digits.foldl
        (fun (significand, skipped) digit =>
          if skipped = 0 ∧ significand * 10 + digit ≤ significandLimit then
            (significand * 10 + digit, 0)
          else (significand, skipped + 1))
        (start, 0) =
      (digits.foldl (fun total digit => total * 10 + digit) start, 0) := by
  induction digits generalizing start with
  | nil => rfl
  | cons digit digits ih =>
    have rest : digits.foldl (fun total digit => total * 10 + digit) (start * 10 + digit) ≤
        significandLimit := fits
    have one := Nat.le_trans (start_le_collected digits (start * 10 + digit)) rest
    simp only [List.foldl_cons, true_and, if_pos one]
    exact ih _ rest

theorem collect_digits {number : Nat} (fits : number ≤ significandLimit) :
    collectWhole (Decimal.digits number) = (number, 0) := by
  have whole := Decimal.value_digits number
  unfold Decimal.value at whole
  have collected := collected_within (Decimal.digits number) 0 (by rw [whole]; exact fits)
  rw [whole] at collected
  exact collected

theorem delimited_byte {rest : Bytes} (delimited : Delimited rest) {next : UInt8} {others : Bytes}
    (shape : rest = next :: others) :
    Ascii.isDigit next = false ∧ next ≠ Ascii.point ∧
      ¬ (next = Ascii.lowerE ∨ next = Ascii.upperE) := by
  have mark := delimited next (by rw [shape]; rfl)
  rcases mark with rfl | rfl | rfl <;> decide

theorem no_digits_follow {rest : Bytes} (delimited : Delimited rest) :
    rest.takeWhile Ascii.isDigit = [] := by
  cases rest with
  | nil => rfl
  | cons next others => rw [List.takeWhile_cons, (delimited_byte delimited rfl).1]; rfl

theorem digit_begins_value {first : UInt8} (digit : Ascii.isDigit first = true) :
    BeginsValue first := by
  refine ⟨?_, ?_⟩
  · cases blank : Cursor.isBlankByte first with
    | false => rfl
    | true =>
      simp only [Cursor.isBlankByte, Bool.or_eq_true, beq_iff_eq] at blank
      rcases blank with ((rfl | rfl) | rfl) | rfl <;> exact absurd digit (by decide)
  · rintro rfl
    exact absurd digit (by decide)

theorem digit_run_of_number {number : Nat} {cursor : Cursor} {rest : Bytes}
    (delimited : Delimited rest) (shown : cursor.rest = Decimal.bytes number ++ rest) :
    digitRun cursor = Decimal.digits number := by
  unfold digitRun
  rw [shown, List.takeWhile_append_of_pos (Decimal.bytes_are_digits number),
    no_digits_follow delimited, List.append_nil]
  exact Decimal.digits_of_bytes number

/-- A written number is read back, with a sign in front of it or without one. -/
theorem read_whole_number (negative : Bool) {number : Nat} (fits : number ≤ significandLimit)
    {cursor : Cursor} {rest : Bytes} (delimited : Delimited rest)
    (shown : cursor.rest = Decimal.bytes number ++ rest) :
    ∃ after, readNumber negative cursor = .ok (wholeNumber negative number, after) ∧
      after.rest = rest := by
  obtain ⟨first, others, shape, digit⟩ := Decimal.bytes_begin number
  have front : cursor.rest = first :: (others ++ rest) := by rw [shown, shape, List.cons_append]
  have run := digit_run_of_number delimited shown
  have length : (Decimal.digits number).length = (Decimal.bytes number).length :=
    (List.length_map ..).symm
  have behind : (cursor.advance (Decimal.digits number).length).rest = rest := by
    rw [length]
    exact Cursor.advance_over shown
  have single : ¬ (first = Ascii.zero ∧ 1 < (Decimal.digits number).length) := by
    rintro ⟨zero, several⟩
    have digits := Decimal.digits_of_bytes number
    rw [shape, List.map_cons, zero] at digits
    have alone := Decimal.alone_of_leading_zero number _ digits.symm
    rw [← digits, alone] at several
    exact Nat.lt_irrefl _ several
  refine ⟨_, ?_, behind⟩
  unfold readNumber
  simp only [front, digit, if_true, run, if_neg single, collect_digits fits, behind]
  cases follows : rest with
  | nil => rfl
  | cons next more =>
    obtain ⟨-, noPoint, noExponent⟩ := delimited_byte delimited follows
    simp only [if_neg noPoint, if_neg noExponent]

/-- The integers that a text can hold: those of 64 bits, with a sign or without one. -/
def FitsWord (number : Int) : Prop := -Int.pow 2 63 ≤ number ∧ number < Int.pow 2 64

theorem natural_fits {number : Nat} (below : number < Nat.pow 2 64) : FitsWord (number : Int) := by
  have least : -Int.pow 2 63 ≤ 0 := by decide
  exact ⟨Int.le_trans least (Int.natCast_nonneg number), Int.ofNat_lt.mpr below⟩

theorem signed_bytes_begin (number : Int) : ∃ first others,
    Decimal.signedBytes number = first :: others ∧
      (first = Ascii.minus ∨ Ascii.isDigit first = true) := by
  cases number with
  | ofNat whole =>
    obtain ⟨first, others, shape, digit⟩ := Decimal.bytes_begin whole
    exact ⟨first, others, shape, .inr digit⟩
  | negSucc whole => exact ⟨Ascii.minus, _, rfl, .inl rfl⟩

theorem signed_bytes_are_text (number : Int) : Bytes.IsText (Decimal.signedBytes number) := by
  cases number with
  | ofNat whole => exact Decimal.bytes_are_text whole
  | negSucc whole => exact Bytes.is_text_cons (by decide) (Decimal.bytes_are_text (whole + 1))

/-- A written integer is read back behind its sign, if it has one. -/
theorem read_signed_number {number : Int} (fits : FitsWord number) {cursor : Cursor}
    {first : UInt8} {others rest : Bytes} (delimited : Delimited rest)
    (shape : Decimal.signedBytes number = first :: others)
    (shown : cursor.rest = Decimal.signedBytes number ++ rest) :
    ∃ after,
      readNumber (decide (first = Ascii.minus))
          (if first = Ascii.minus then cursor.advance 1 else cursor) =
        .ok (.integer number, after) ∧ after.rest = rest := by
  obtain ⟨least, greatest⟩ := fits
  cases number with
  | ofNat whole =>
    obtain ⟨digit, more, begins, isDigit⟩ := Decimal.bytes_begin whole
    have same : first = digit := (List.cons.inj (shape.symm.trans begins)).1
    have unsigned : first ≠ Ascii.minus := by
      rw [same]
      rintro rfl
      exact absurd isDigit (by decide)
    have small : whole ≤ significandLimit := by
      have below : whole < Nat.pow 2 64 := Int.ofNat_lt.mp greatest
      exact Nat.le_of_lt_succ below
    obtain ⟨after, read, ended⟩ := read_whole_number false small delimited shown
    refine ⟨after, ?_, ended⟩
    rw [decide_eq_false unsigned, if_neg unsigned]
    exact read
  | negSucc whole =>
    have minus : first = Ascii.minus := (List.cons.inj shape).1.symm
    have small : whole + 1 ≤ Nat.pow 2 63 := by
      rw [Int.negSucc_eq] at least
      exact Int.ofNat_le.mp (Int.neg_le_neg_iff.mp least)
    have inside := Cursor.advance_over_one shown
    have fits : whole + 1 ≤ significandLimit := Nat.le_trans small (by decide)
    obtain ⟨after, read, ended⟩ := read_whole_number true fits delimited inside
    have signed : wholeNumber true (whole + 1) = .integer (.negSucc whole) := by
      have proper : ¬ (whole + 1 = 0 ∨ Nat.pow 2 63 < whole + 1) := by
        rintro (zero | large)
        · exact Nat.succ_ne_zero whole zero
        · exact absurd small (Nat.not_le_of_gt large)
      unfold wholeNumber
      rw [if_pos rfl, if_neg proper]
      rfl
    refine ⟨after, ?_, ended⟩
    rw [decide_eq_true minus, if_pos minus, ← signed]
    exact read

end Json

open Json

namespace Codec

/-- An integer type whose values are numbers of a machine word, and known by them. -/
structure MachineInteger {α : Type} (toInt : α → Int) (ofInt? : Int → Option α) : Prop where
  fits : ∀ value, FitsWord (toInt value)
  known : ∀ value, ofInt? (toInt value) = some value

/-- The values of such a type are read back. -/
theorem integer_faithful {α : Type} {expected : String} {toInt : α → Int}
    {ofInt? : Int → Option α} (machine : MachineInteger toInt ofInt?) (value : α) :
    (integer expected toInt ofInt?).Faithful value := by
  obtain ⟨first, others, shape, mark⟩ := signed_bytes_begin (toInt value)
  have solid : BeginsValue first := by
    rcases mark with rfl | digit
    · decide
    · exact digit_begins_value digit
  refine ⟨signed_bytes_are_text _, ⟨first, others, shape, solid⟩, ?_⟩
  intro cursor rest delimited shown
  obtain ⟨after, read, ended⟩ := read_signed_number (machine.fits value) delimited shape shown
  have front : cursor.rest = first :: (others ++ rest) := by
    rw [shown]
    change Decimal.signedBytes (toInt value) ++ rest = _
    rw [shape, List.cons_append]
  refine ⟨after, ?_, ended⟩
  simp only [integer, value_start_solid front solid.1, bind, Except.bind, if_pos mark,
    decide_eq_true_eq, read, machine.known value]

theorem below_bound {bound number : Nat} (below : number < bound) :
    belowBound? bound (number : Int) = some number := if_pos below

/-- Unsigned numbers below a bound, which a machine word reaches. -/
theorem unsigned_integer {α : Type} {bound : Nat} {toNat : α → Nat} {ofNat : Nat → α}
    (bounded : bound ≤ Nat.pow 2 64) (below : ∀ value, toNat value < bound)
    (inverse : ∀ value, ofNat (toNat value) = value) :
    MachineInteger (fun value => (toNat value : Int))
      fun number => (belowBound? bound number).map ofNat where
  fits value := natural_fits (Nat.lt_of_lt_of_le (below value) bounded)
  known value := by rw [below_bound (below value), Option.map_some, inverse]

theorem signed_integer :
    MachineInteger Int32.toInt fun number =>
      if -Int.pow 2 31 ≤ number ∧ number < Int.pow 2 31 then some (Int32.ofInt number)
      else none where
  fits value := by
    have least : -Int.pow 2 63 ≤ -Int.pow 2 31 := by decide
    have greatest : Int.pow 2 31 < Int.pow 2 64 := by decide
    exact ⟨Int.le_trans least value.le_toInt, Int.lt_trans value.toInt_lt greatest⟩
  known value := by
    have within : -Int.pow 2 31 ≤ value.toInt ∧ value.toInt < Int.pow 2 31 :=
      ⟨value.le_toInt, value.toInt_lt⟩
    rw [if_pos within, Int32.ofInt_toInt]

end Codec

end TaskDispatch
