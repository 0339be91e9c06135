import Mathlib.Data.List.Forall2
import Mathlib.Data.String.Basic
import TaskDispatch.Proofs.Json.Strings
import TaskDispatch.Proofs.Task.IdText

/-!
# Identifiers sort as their texts

The digits of base 32 are in ascending order in the alphabet, and all identifiers have the same
number of them. So comparing two texts from the left, digit by digit, compares the two numbers, and
identifiers stand in one order, whether they are sorted as numbers or as texts. Reading takes a digit
in either case, so every spelling of the text is read back as the identifier.
-/

namespace TaskDispatch.TaskId

set_option autoImplicit false

/-- Behind sequences of one length the last elements decide only if all others agree. -/
theorem lex_concat_iff {γ : Type} {r : γ → γ → Prop} [Std.Irrefl r] (first second : γ) :
    ∀ {left right : List γ}, left.length = right.length →
      (List.Lex r (left ++ [first]) (right ++ [second]) ↔
        List.Lex r left right ∨ (left = right ∧ r first second))
  | [], [], _ => by simp
  | head :: left, other :: right, same => by
      have tails : List.Lex r (left ++ [first]) (right ++ [second]) ↔
          List.Lex r left right ∨ (left = right ∧ r first second) :=
        lex_concat_iff first second (Nat.succ.inj same)
      rw [List.cons_append, List.cons_append, List.cons_lex_cons_iff, List.cons_lex_cons_iff, tails,
        List.cons.injEq]
      tauto

/-- The lowest digit of a number, and the digits above it. -/
theorem last_digit_apart (width number : Nat) :
    number % 32 ^ (width + 1) = number % 32 + 32 * (number / 32 % 32 ^ width) := by
  rw [Nat.pow_succ, Nat.mul_comm, Nat.mod_mul]

theorem digit_values_inj {width left right : Nat} :
    digitValues width left = digitValues width right ↔ left % 32 ^ width = right % 32 ^ width := by
  constructor
  · intro same
    have denoted := value_of_digits width left
    rw [same, value_of_digits] at denoted
    exact (Option.some.inj denoted).symm
  · intro same
    induction width generalizing left right with
    | zero => rfl
    | succ width ih =>
      rw [last_digit_apart, last_digit_apart] at same
      have lowest : left % 32 = right % 32 := by omega
      have others : left / 32 % 32 ^ width = right / 32 % 32 ^ width := by omega
      rw [digitValues, digitValues, ih others, lowest]

/-- Digit sequences of one width are ordered as the numbers that they denote. -/
theorem digit_values_lex_iff {width left right : Nat} :
    List.Lex (· < ·) (digitValues width left) (digitValues width right) ↔
      left % 32 ^ width < right % 32 ^ width := by
  induction width generalizing left right with
  | zero => simp [digitValues, Nat.mod_one]
  | succ width ih =>
    have lengths : (digitValues width (left / 32)).length =
        (digitValues width (right / 32)).length := by
      rw [digit_values_length, digit_values_length]
    rw [digitValues, digitValues, lex_concat_iff _ _ lengths, ih, digit_values_inj, last_digit_apart,
      last_digit_apart]
    omega

/-- The greater a value, the greater its digit, and the byte of its digit. -/
theorem digit_lt_iff :
    ∀ left < 32, ∀ right < 32,
      (digit left < digit right ↔ left < right) ∧
        (UInt8.ofNat (digit left).toNat < UInt8.ofNat (digit right).toNat ↔ left < right) := by
  decide

/-- Writing values in ascending signs keeps the order of their sequences. -/
theorem lex_map_iff {γ : Type} {r : γ → γ → Prop} [Std.Irrefl r] {sign : Nat → γ}
    (ascending : ∀ left < 32, ∀ right < 32, (r (sign left) (sign right) ↔ left < right)) :
    ∀ {left right : List Nat}, (∀ value ∈ left, value < 32) → (∀ value ∈ right, value < 32) →
      (List.Lex r (left.map sign) (right.map sign) ↔ List.Lex (· < ·) left right)
  | [], [], _, _ => by simp
  | [], _ :: _, _, _ => iff_of_true .nil .nil
  | _ :: _, [], _, _ => by simp
  | head :: left, other :: right, leftSmall, rightSmall => by
      obtain ⟨headSmall, leftSmall⟩ := List.forall_mem_cons.mp leftSmall
      obtain ⟨otherSmall, rightSmall⟩ := List.forall_mem_cons.mp rightSmall
      have heads := ascending head headSmall other otherSmall
      have sameSign : sign head = sign other ↔ head = other := by
        refine ⟨fun same => ?_, congrArg sign⟩
        have forth := (ascending head headSmall other otherSmall).not
        have back := (ascending other otherSmall head headSmall).not
        rw [same] at forth back
        have irreflexive : ¬ r (sign other) (sign other) := irrefl _
        have notLess := forth.mp irreflexive
        have notGreater := back.mp irreflexive
        omega
      rw [List.map_cons, List.map_cons, List.cons_lex_cons_iff, List.cons_lex_cons_iff, heads,
        sameSign, lex_map_iff ascending leftSmall rightSmall]

/-- Texts with a common beginning are ordered as what follows it. -/
theorem lex_append_iff {γ : Type} {r : γ → γ → Prop} [Std.Irrefl r] (start : List γ)
    {left right : List γ} : List.Lex r (start ++ left) (start ++ right) ↔ List.Lex r left right := by
  induction start with
  | nil => rfl
  | cons head start ih => rw [List.cons_append, List.cons_append, List.lex_cons_iff, ih]

/-- Digits in any ascending signs behind a common beginning are ordered as the identifiers. -/
theorem signs_lex_iff {γ : Type} {r : γ → γ → Prop} [Std.Irrefl r] {sign : Nat → γ}
    (ascending : ∀ left < 32, ∀ right < 32, (r (sign left) (sign right) ↔ left < right))
    (start : List γ) (left right : TaskId) :
    List.Lex r (start ++ (digitValues 26 left.number.val).map sign)
        (start ++ (digitValues 26 right.number.val).map sign) ↔ left < right := by
  have small (id : TaskId) : id.number.val < 32 ^ 26 :=
    Nat.lt_of_lt_of_le id.number.isLt (by decide)
  rw [lex_append_iff, lex_map_iff ascending (digit_values_lt 26 _) (digit_values_lt 26 _),
    digit_values_lex_iff, Nat.mod_eq_of_lt (small left), Nat.mod_eq_of_lt (small right)]
  rfl

theorem display_characters (id : TaskId) :
    id.display.toList = "task-".toList ++ (digitValues 26 id.number.val).map digit :=
  String.toList_ofList

theorem display_lt_iff (left right : TaskId) : left.display < right.display ↔ left < right := by
  have ascending : ∀ first < 32, ∀ second < 32, (digit first < digit second ↔ first < second) :=
    fun first firstSmall second secondSmall =>
      (digit_lt_iff first firstSmall second secondSmall).1
  rw [String.lt_iff_toList_lt, display_characters, display_characters]
  exact signs_lex_iff ascending "task-".toList left right

theorem display_bytes (id : TaskId) :
    Bytes.ofText id.display =
      Bytes.ofText "task-" ++
        (digitValues 26 id.number.val).map fun value => UInt8.ofNat (digit value).toNat := by
  have ascii : ∀ character ∈ id.digits, character.toNat < 128 := by
    intro character member
    obtain ⟨value, valueMember, rfl⟩ := List.mem_map.mp member
    exact (digit_ascii value (digit_values_lt 26 id.number.val value valueMember)).1
  have bytes : Bytes.ofCharacters id.digits =
      (digitValues 26 id.number.val).map fun value => UInt8.ofNat (digit value).toNat := by
    rw [Bytes.bytes_of_ascii ascii]
    unfold digits
    rw [List.map_map]
    rfl
  unfold display
  rw [Bytes.of_text_of_list, Bytes.of_text_eq, ← bytes]
  exact List.flatMap_append

theorem display_bytes_lt_iff (left right : TaskId) :
    List.Lex (· < ·) (Bytes.ofText left.display) (Bytes.ofText right.display) ↔ left < right := by
  have ascending : ∀ first < 32, ∀ second < 32,
      (UInt8.ofNat (digit first).toNat < UInt8.ofNat (digit second).toNat ↔ first < second) :=
    fun first firstSmall second secondSmall =>
      (digit_lt_iff first firstSmall second secondSmall).2
  rw [display_bytes, display_bytes]
  exact signs_lex_iff ascending (Bytes.ofText "task-") left right

theorem display_injective : Function.Injective display := by
  intro left right same
  have digits : left.digits = right.digits :=
    List.append_cancel_left (String.ofList_injective same)
  have texts : left.text = right.text := congrArg String.ofList digits
  have read := left.parse_text
  rw [texts, right.parse_text] at read
  exact (Except.ok.inj read).symm

theorem digits_in_alphabet (id : TaskId) : ∀ digit ∈ id.digits, digit ∈ alphabet := by
  have listed : ∀ value < 32, digit value ∈ alphabet := by decide
  intro digit member
  obtain ⟨value, valueMember, rfl⟩ := List.mem_map.mp member
  exact listed value (digit_values_lt 26 id.number.val value valueMember)

/-- A spelling in quotes is a JSON text of the identifier too. -/
theorem decode_spelling {written : String} {id : TaskId} (spells : Spells written id) :
    codec.decode (Json.writeString written) = .ok id :=
  Codec.decode_parsed_string text (parse_spelling spells)

/-- Identifiers stand in one order, as numbers, as texts and as bytes of texts, and so does a sorted
list of them. Each is shown as `task-` and 26 digits of the alphabet, no two alike, and every
spelling of the digits in upper and lower case is read back as the identifier. -/
theorem identifiers_sort_as_texts :
    (∀ left right : Fin (Nat.pow 2 128),
        let first : TaskId := ⟨left⟩
        let second : TaskId := ⟨right⟩
        (first < second ↔ left < right) ∧ (left < right ↔ first.display < second.display) ∧
          (left < right ↔
            List.Lex (· < ·) (Bytes.ofText first.display) (Bytes.ofText second.display))) ∧
      (∀ ids : List TaskId,
        (sorted ids).map display =
          (ids.map display).mergeSort fun left right => decide (left ≤ right)) ∧
      (∀ id : TaskId,
        id.display = "task-" ++ id.text ∧ id.text.length = 26 ∧
          ∀ digit ∈ id.text.toList, digit ∈ alphabet) ∧
      Function.Injective display ∧
      ∀ (id : TaskId) (written : String), Spells written id →
        parse written = .ok id ∧ codec.decode (Json.writeString written) = .ok id := by
  refine ⟨?_, ?_, ?_, display_injective, ?_⟩
  · intro left right first second
    exact ⟨Iff.rfl, (display_lt_iff first second).symm, (display_bytes_lt_iff first second).symm⟩
  · intro ids
    refine List.map_mergeSort fun left _ right _ => ?_
    rw [decide_eq_decide]
    have order := (display_lt_iff right left).not
    exact (Nat.not_lt.symm.trans order.symm)
  · intro id
    refine ⟨?_, ?_, ?_⟩
    · unfold display text
      rw [String.ofList_append, String.ofList_toList]
    · unfold text
      rw [String.length_ofList, digits_length]
    · unfold text
      rw [String.toList_ofList]
      exact id.digits_in_alphabet
  · exact fun id written spells => ⟨parse_spelling spells, decode_spelling spells⟩

/-- An identifier is read back from its digits in mixed case. -/
theorem identifier_in_mixed_case :
    let id : TaskId := .ofNat 319037518462666934056279591726308366667
    let written := "7g0Hj1kMn2Pqr3sT4vwXy5z6aB"
    Spells written id ∧ parse written = .ok id ∧
      codec.decode (Json.writeString written) = .ok id := by
  intro id written
  have spells : Spells written id := by decide
  exact ⟨spells, identifiers_sort_as_texts.2.2.2.2 id written spells⟩

end TaskDispatch.TaskId
