import Mathlib.Algebra.Group.Nat.Defs
import Mathlib.Data.List.Forall2
import TaskDispatch.Proofs.Text.Utf8
import TaskDispatch.Task.Id

/-!
# The text of an identifier

The digits of base 32 denote the number that they were taken from, up to as many digits as there
are. An identifier has two bits less than its 26 digits have room for, so its text, which has one
byte for each digit, is read back as the identifier, and so is every spelling of the text with some
digits in lower case.
-/

namespace TaskDispatch.TaskId

set_option autoImplicit false

theorem value_of_digit :
    ∀ value < 32,
      digitValue? (digit value) = some value ∧ digitValue? (digit value).toLower = some value := by
  decide

theorem digit_ascii :
    ∀ value < 32, (digit value).toNat < 128 ∧ (digit value).toLower.toNat < 128 := by
  decide

theorem digit_values_length (width number : Nat) : (digitValues width number).length = width := by
  induction width generalizing number with
  | zero => rfl
  | succ width ih => rw [digitValues, List.length_append, ih, List.length_singleton]

theorem digit_values_lt (width number : Nat) : ∀ value ∈ digitValues width number, value < 32 := by
  induction width generalizing number with
  | zero => exact fun _ member => nomatch member
  | succ width ih =>
    intro value member
    rw [digitValues, List.mem_append, List.mem_singleton] at member
    rcases member with upper | rfl
    · exact ih (number / 32) value upper
    · exact Nat.mod_lt number (by decide)

theorem value_of_concat (characters : List Char) (last : Char) :
    valueOf? (characters ++ [last]) =
      (valueOf? characters).bind fun number =>
        (digitValue? last).bind fun value => some (number * 32 + value) := by
  unfold valueOf?
  rw [List.foldl_append]
  rfl

theorem value_of_digits (width number : Nat) :
    valueOf? ((digitValues width number).map digit) = some (number % 32 ^ width) := by
  induction width generalizing number with
  | zero =>
    rw [Nat.pow_zero, Nat.mod_one]
    rfl
  | succ width ih =>
    have last := (value_of_digit (number % 32) (Nat.mod_lt number (by decide))).1
    have split : number / 32 % 32 ^ width * 32 + number % 32 = number % 32 ^ (width + 1) := by
      rw [Nat.pow_succ, Nat.mul_comm, Nat.mul_comm (32 ^ width), Nat.mod_mul, Nat.add_comm]
    rw [digitValues, List.map_append, List.map_singleton, value_of_concat, ih, last]
    simp only [Option.bind_some, split]

theorem digits_length (id : TaskId) : id.digits.length = 26 := by
  unfold digits
  rw [List.length_map, digit_values_length]

/-- A spelling of the text of an identifier: its digits, each in upper or in lower case. -/
def Spells (written : String) (id : TaskId) : Prop :=
  List.Forall₂ (fun character digit => character = digit ∨ character = digit.toLower)
    written.toList id.digits

instance (written : String) (id : TaskId) : Decidable (Spells written id) :=
  inferInstanceAs (Decidable (List.Forall₂ _ _ _))

theorem text_spells (id : TaskId) : Spells id.text id := by
  unfold Spells text
  rw [String.toList_ofList]
  exact List.forall₂_same.mpr fun _ _ => .inl rfl

/-- Both cases of a digit have its value, and are of seven bits. -/
theorem either_case {value : Nat} (small : value < 32) {character : Char}
    (spelled : character = digit value ∨ character = (digit value).toLower) :
    digitValue? character = some value ∧ character.toNat < 128 := by
  have known := value_of_digit value small
  have ascii := digit_ascii value small
  rcases spelled with rfl | rfl
  · exact ⟨known.1, ascii.1⟩
  · exact ⟨known.2, ascii.2⟩

/-- The values of digits that are spelled in any way. -/
theorem values_of_spelling {characters : List Char} {values : List Nat}
    (spelled : List.Forall₂
      (fun character value => character = digit value ∨ character = (digit value).toLower)
      characters values) (small : ∀ value ∈ values, value < 32) :
    characters.map digitValue? = values.map some ∧
      ∀ character ∈ characters, character.toNat < 128 := by
  induction spelled with
  | nil => exact ⟨rfl, fun _ member => nomatch member⟩
  | cons either _ ih =>
    obtain ⟨first, ascii⟩ := either_case (small _ (List.mem_cons_self ..)) either
    obtain ⟨others, allAscii⟩ := ih fun value member => small value (List.mem_cons_of_mem _ member)
    refine ⟨?_, List.forall_mem_cons.mpr ⟨ascii, allAscii⟩⟩
    rw [List.map_cons, List.map_cons, first, others]

/-- Characters of the same values denote the same number. -/
theorem value_of_same_values {left right : List Char}
    (same : left.map digitValue? = right.map digitValue?) : valueOf? left = valueOf? right := by
  have byValues (characters : List Char) :
      valueOf? characters = (characters.map digitValue?).foldl
        (fun total value => do
          let number ← total
          let value ← value
          some (number * 32 + value)) (some 0) := by
    rw [List.foldl_map]
    rfl
  rw [byValues, byValues, same]

/-- Every spelling of the text of an identifier is read back as the identifier. -/
theorem parse_spelling {written : String} {id : TaskId} (spells : Spells written id) :
    parse written = .ok id := by
  have digits := values_of_spelling (List.forall₂_map_right_iff.mp spells)
    (digit_values_lt 26 id.number.val)
  have capitals := values_of_spelling (List.forall₂_map_right_iff.mp id.text_spells)
    (digit_values_lt 26 id.number.val)
  have size : written.utf8ByteSize = 26 := by
    rw [← Bytes.length_of_text, Bytes.of_text_eq, Bytes.length_of_ascii digits.2,
      List.Forall₂.length_eq spells, digits_length]
  have small : id.number.val < 32 ^ 26 := Nat.lt_of_lt_of_le id.number.isLt (by decide)
  have denoted : valueOf? written.toList = some id.number.val := by
    rw [value_of_same_values (digits.1.trans capitals.1.symm)]
    unfold text TaskId.digits
    rw [String.toList_ofList, value_of_digits, Nat.mod_eq_of_lt small]
  have whole : ofNat id.number.val = id := by
    have number : id.number.val % Nat.pow 2 128 = id.number.val := Nat.mod_eq_of_lt id.number.isLt
    unfold ofNat
    simp only [number]
  unfold parse
  rw [if_neg (not_not_intro size), denoted]
  simp only [whole]

/-- The text of an identifier is read back as the identifier. -/
theorem parse_text (id : TaskId) : parse id.text = .ok id := parse_spelling id.text_spells

end TaskDispatch.TaskId
