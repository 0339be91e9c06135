import Mathlib.Data.List.DropRight
import Mathlib.Data.Nat.Digits.Defs
import TaskDispatch.Config
import TaskDispatch.Proofs.Json.Numbers

/-!
# What a variable may hold

A variable writes a number as decimal digits, at least one, with an optional plus sign in front and
any blanks around. Leading zeros do not count, so there is no limit to the length; the number itself
has to be below `2 ^ 64`. Settings are accepted exactly if each variable is unset or writes a number
that is not zero; the first variable at fault decides about the error.
-/

namespace TaskDispatch

set_option autoImplicit false

namespace Text

/-- Trimming takes blanks away and nothing else. -/
theorem trimmed_parts (characters : List Char) : ∃ before after,
    (∀ character ∈ before, isBlank character = true) ∧
      (∀ character ∈ after, isBlank character = true) ∧
      characters = before ++ (trimmed characters ++ after) := by
  refine ⟨characters.takeWhile isBlank, (characters.dropWhile isBlank).rtakeWhile isBlank,
    fun _ => List.mem_takeWhile_imp, fun _ => List.mem_rtakeWhile_imp, ?_⟩
  have back : trimmed characters ++ (characters.dropWhile isBlank).rtakeWhile isBlank =
      characters.dropWhile isBlank := List.rdropWhile_append_rtakeWhile
  rw [back, List.takeWhile_append_dropWhile]

/-- What has no blanks in it is left over when the blanks around it are taken away. -/
theorem trimmed_of_solid {before body after : List Char}
    (blankBefore : ∀ character ∈ before, isBlank character = true)
    (blankAfter : ∀ character ∈ after, isBlank character = true)
    (solid : ∀ character ∈ body, isBlank character = false) (someBody : body ≠ []) :
    trimmed (before ++ (body ++ after)) = body := by
  have front : (before ++ (body ++ after)).dropWhile isBlank = body ++ after := by
    obtain ⟨first, others, rfl⟩ := List.exists_cons_of_ne_nil someBody
    rw [List.dropWhile_append_of_pos blankBefore, List.cons_append, List.dropWhile_cons_of_neg]
    rw [solid first List.mem_cons_self]
    exact Bool.false_ne_true
  have back : (body ++ after).reverse.dropWhile isBlank = body.reverse := by
    rw [List.reverse_append, List.dropWhile_append_of_pos]
    · rw [List.dropWhile_eq_self_iff]
      intro shown
      rw [solid _ (List.mem_reverse.mp (List.getElem_mem shown))]
      exact Bool.false_ne_true
    · exact fun character member => blankAfter character (List.mem_reverse.mp member)
  unfold trimmed
  rw [front, back, List.reverse_reverse]

theorem blank_of_digit {character : Char} (digit : character.isDigit = true) :
    isBlank character = false := by
  simp only [Char.isDigit, Bool.and_eq_true, decide_eq_true_eq, ge_iff_le, UInt32.le_iff_toNat_le]
    at digit
  have lower : 48 ≤ character.toNat := digit.1
  have upper : character.toNat ≤ 57 := digit.2
  simp only [isBlank, blankRanges, List.any_cons, List.any_nil, Bool.or_false,
    Bool.or_eq_false_iff, Bool.and_eq_false_iff, decide_eq_false_iff_not]
  omega

end Text

namespace ProcessorConfig

open Text

/-- The number that decimal digits denote: the last one counts ones, each digit before it ten times
as much as the next. -/
def numberOf (digits : List Char) : Nat :=
  Nat.ofDigits 10 (digits.reverse.map fun digit => digit.toNat - '0'.toNat)

/-- A text writes a number: an optional plus sign and decimal digits, between blanks. -/
inductive Writes (raw : String) (number : Nat) : Prop where
  | written (before sign digits after : List Char)
      (spelled : raw.toList = before ++ (sign ++ digits ++ after))
      (blankBefore : ∀ character ∈ before, isBlank character = true)
      (blankAfter : ∀ character ∈ after, isBlank character = true)
      (signed : sign = [] ∨ sign = ['+']) (someDigit : digits ≠ [])
      (decimal : ∀ character ∈ digits, character.isDigit = true)
      (denoted : numberOf digits = number) (fits : number < 2 ^ 64)

/-- The number that a variable gives for a setting: the default if it is unset, else the number that
it writes, which is not zero. -/
inductive Gives (default : Nat) : Option String → Nat → Prop where
  | unset : Gives default none default
  | set {raw : String} {number : Nat} (writes : Writes raw number) (positive : 1 ≤ number) :
      Gives default (some raw) number

/-- What is wrong with a variable: it writes zero, or it writes no number. -/
inductive Fault (key : String) : Option String → ConfigError → Prop where
  | zero {raw : String} (writes : Writes raw 0) : Fault key (some raw) (.zero key)
  | unwritten {raw : String} (nothing : ∀ number, ¬ Writes raw number) :
      Fault key (some raw) (.invalidNumber key raw)

theorem value_eq_number (digits : List Char) :
    Decimal.value (digits.map fun digit => digit.toNat - '0'.toNat) = numberOf digits := by
  unfold numberOf
  induction digits using List.reverseRecOn with
  | nil => rfl
  | append_singleton digits last ih =>
      rw [List.map_append, List.map_singleton, Decimal.value_append_digit, ih,
        List.reverse_concat, List.map_cons, Nat.ofDigits_cons]
      omega

theorem decimal_value_iff {characters : List Char} {number : Nat} :
    decimalValue? characters = some number ↔
      characters ≠ [] ∧ (∀ character ∈ characters, character.isDigit = true) ∧
        numberOf characters = number := by
  unfold decimalValue?
  rw [value_eq_number, Option.ite_none_right_eq_some, Option.some.injEq, List.all_eq_true,
    and_assoc]

/-- Only a plus sign in front is passed over. -/
theorem word_value_iff {characters : List Char} {word : UInt64} :
    wordValue? characters = some word ↔
      ∃ sign digits, characters = sign ++ digits ∧ (sign = [] ∨ sign = ['+']) ∧
        decimalValue? digits = some word.toNat := by
  have fitting (digits : List Char) :
      ((decimalValue? digits).bind fun value =>
          if value < Nat.pow 2 64 then some (UInt64.ofNat value) else none) = some word ↔
        decimalValue? digits = some word.toNat := by
    constructor
    · intro found
      obtain ⟨value, denoted, found⟩ := Option.bind_eq_some_iff.mp found
      obtain ⟨fits, same⟩ := Option.ite_none_right_eq_some.mp found
      rw [← Option.some.inj same, UInt64.toNat_ofNat', Nat.mod_eq_of_lt fits]
      exact denoted
    · intro denoted
      have fits : word.toNat < Nat.pow 2 64 := word.toNat_lt
      rw [denoted, Option.bind_some, if_pos fits, UInt64.ofNat_toNat]
  unfold wordValue?
  rw [Option.bind_eq_bind]
  constructor
  · intro found
    split at found
    next others => exact ⟨['+'], others, rfl, .inr rfl, (fitting others).mp found⟩
    next => exact ⟨[], characters, rfl, .inl rfl, (fitting characters).mp found⟩
  · rintro ⟨sign, digits, rfl, rfl | rfl, denoted⟩
    · rw [List.nil_append]
      split
      next others =>
        -- The plus sign is no digit, so these are no digits.
        obtain ⟨_, decimal, _⟩ := decimal_value_iff.mp denoted
        exact absurd (decimal '+' List.mem_cons_self) (by decide)
      next => exact (fitting digits).mpr denoted
    · exact (fitting digits).mpr denoted

/-- What is read from a variable is what its text writes. -/
theorem word_found_iff {raw : String} {word : UInt64} :
    wordValue? (trimmed raw.toList) = some word ↔ Writes raw word.toNat := by
  constructor
  · intro found
    obtain ⟨sign, digits, body, signed, denoted⟩ := word_value_iff.mp found
    obtain ⟨someDigit, decimal, number⟩ := decimal_value_iff.mp denoted
    obtain ⟨before, after, blankBefore, blankAfter, spelled⟩ := trimmed_parts raw.toList
    rw [body] at spelled
    exact .written before sign digits after spelled blankBefore blankAfter signed someDigit
      decimal number word.toNat_lt
  · rintro ⟨before, sign, digits, after, spelled, blankBefore, blankAfter, signed, someDigit,
      decimal, denoted, _⟩
    have solid : ∀ character ∈ sign ++ digits, isBlank character = false := by
      intro character member
      rcases List.mem_append.mp member with front | digit
      · rcases signed with rfl | rfl
        · cases front
        · rw [List.mem_singleton.mp front]
          decide
      · exact blank_of_digit (decimal character digit)
    have someBody : sign ++ digits ≠ [] := List.append_ne_nil_of_right_ne_nil sign someDigit
    rw [spelled, trimmed_of_solid blankBefore blankAfter solid someBody]
    exact word_value_iff.mpr
      ⟨sign, digits, rfl, signed, decimal_value_iff.mpr ⟨someDigit, decimal, denoted⟩⟩

theorem Writes.word {raw : String} {number : Nat} (writes : Writes raw number) :
    ∃ word : UInt64, word.toNat = number ∧ wordValue? (trimmed raw.toList) = some word := by
  obtain ⟨_, _, _, _, _, _, _, _, _, _, _, fits⟩ := id writes
  have same : (UInt64.ofNat number).toNat = number := by
    rw [UInt64.toNat_ofNat', Nat.mod_eq_of_lt fits]
  refine ⟨UInt64.ofNat number, same, word_found_iff.mpr ?_⟩
  rw [same]
  exact writes

/-- A text writes one number at most. -/
theorem Writes.unique {raw : String} {left right : Nat} (writes : Writes raw left)
    (again : Writes raw right) : left = right := by
  obtain ⟨word, rfl, found⟩ := writes.word
  obtain ⟨other, rfl, shown⟩ := again.word
  rw [Option.some.inj (found.symm.trans shown)]

theorem parse_ok_iff {key raw : String} {number : { number : UInt64 // number ≠ 0 }} :
    parsePositive key raw = .ok number ↔ Writes raw number.val.toNat := by
  rw [← word_found_iff]
  unfold parsePositive
  cases found : wordValue? (trimmed raw.toList) with
  | none => simp
  | some word =>
      by_cases positive : word ≠ 0
      · simp only [dif_pos positive, Except.ok.injEq, Option.some.injEq]
        exact Subtype.ext_iff
      · simp only [dif_neg positive, reduceCtorEq, Option.some.injEq, false_iff]
        rintro rfl
        exact positive number.property

theorem parse_error_iff {key raw : String} {error : ConfigError} :
    parsePositive key raw = .error error ↔ Fault key (some raw) error := by
  unfold parsePositive
  cases found : wordValue? (trimmed raw.toList) with
  | none =>
      have nothing : ∀ number, ¬ Writes raw number := by
        intro number writes
        obtain ⟨word, _, shown⟩ := writes.word
        rw [found] at shown
        cases shown
      constructor
      · rintro ⟨⟩
        exact .unwritten nothing
      · rintro (writes | _)
        · exact absurd writes (nothing 0)
        · rfl
  | some word =>
      have writes := word_found_iff.mp found
      by_cases positive : word ≠ 0
      · simp only [dif_pos positive, reduceCtorEq, false_iff]
        rintro (zero | nothing)
        · exact positive (UInt64.toNat_inj.mp (writes.unique zero))
        · exact nothing _ writes
      · have zero : word = 0 := not_not.mp positive
        subst zero
        simp only [dif_neg positive, Except.error.injEq]
        constructor
        · rintro rfl
          exact .zero writes
        · rintro (_ | nothing)
          · rfl
          · exact absurd writes (nothing _)

def settingOf (key : String) (default : { number : UInt64 // number ≠ 0 }) :
    Option String → Except ConfigError { number : UInt64 // number ≠ 0 }
  | none => .ok default
  | some raw => parsePositive key raw

theorem setting_ok_iff {key : String} {default number : { number : UInt64 // number ≠ 0 }}
    {held : Option String} :
    settingOf key default held = .ok number ↔
      Gives default.val.toNat held number.val.toNat := by
  cases held with
  | none =>
      constructor
      · rintro ⟨⟩
        exact .unset
      · intro gives
        generalize same : number.val.toNat = value at gives
        cases gives
        exact congrArg Except.ok (Subtype.ext (UInt64.toNat_inj.mp same.symm))
  | some raw =>
      have positive : 1 ≤ number.val.toNat :=
        Nat.one_le_iff_ne_zero.mpr fun zero => number.property (UInt64.toNat_inj.mp zero)
      constructor
      · exact fun parsed => .set (parse_ok_iff.mp parsed) positive
      · rintro (_ | ⟨writes, _⟩)
        exact parse_ok_iff.mpr writes

theorem setting_error_iff {key : String} {default : { number : UInt64 // number ≠ 0 }}
    {held : Option String} {error : ConfigError} :
    settingOf key default held = .error error ↔ Fault key held error := by
  cases held with
  | none =>
      constructor
      · rintro ⟨⟩
      · rintro ⟨⟩
  | some raw => exact parse_error_iff

/-- What a variable gives is a word that is not zero. -/
theorem Gives.word {default : { number : UInt64 // number ≠ 0 }} {held : Option String}
    {number : Nat} (gives : Gives default.val.toNat held number) :
    ∃ word : { number : UInt64 // number ≠ 0 }, word.val.toNat = number := by
  cases gives with
  | unset => exact ⟨default, rfl⟩
  | set writes positive =>
      obtain ⟨word, same, _⟩ := writes.word
      refine ⟨⟨word, ?_⟩, same⟩
      rintro rfl
      rw [← same] at positive
      cases positive

abbrev defaultSize : { number : UInt64 // number ≠ 0 } :=
  ⟨default.concurrency, default.positive⟩

abbrev defaultMillis : { number : UInt64 // number ≠ 0 } := ⟨5000, by decide⟩

/-- The first variable is read first, and the second one only if nothing is wrong with it. -/
theorem of_lookup_eq (lookup : String → Option String) :
    ofLookup lookup =
      (settingOf concurrencyKey defaultSize (lookup concurrencyKey)).bind fun size =>
        (settingOf timeoutKey defaultMillis (lookup timeoutKey)).bind fun millis =>
          .ok
            { concurrency := size.val
              positive := size.property
              dequeueTimeout := .ofMillis millis.val } := by
  unfold ofLookup
  cases lookup concurrencyKey with
  | none => cases lookup timeoutKey <;> rfl
  | some raw => cases lookup timeoutKey <;> rfl

section Lookups

variable {lookup : String → Option String}

theorem lookup_ok_iff {config : ProcessorConfig} :
    ofLookup lookup = .ok config ↔
      ∃ size millis,
        settingOf concurrencyKey defaultSize (lookup concurrencyKey) = .ok size ∧
          settingOf timeoutKey defaultMillis (lookup timeoutKey) = .ok millis ∧
          config.concurrency = size.val ∧ config.dequeueTimeout = .ofMillis millis.val := by
  rw [of_lookup_eq]
  cases settingOf concurrencyKey defaultSize (lookup concurrencyKey) with
  | error => simp [Except.bind]
  | ok size =>
      cases settingOf timeoutKey defaultMillis (lookup timeoutKey) with
      | error => simp [Except.bind]
      | ok millis =>
          obtain ⟨concurrency, positive, dequeueTimeout⟩ := config
          simp [Except.bind, eq_comm]

theorem lookup_error_iff {error : ConfigError} :
    ofLookup lookup = .error error ↔
      settingOf concurrencyKey defaultSize (lookup concurrencyKey) = .error error ∨
        (∃ size, settingOf concurrencyKey defaultSize (lookup concurrencyKey) = .ok size) ∧
          settingOf timeoutKey defaultMillis (lookup timeoutKey) = .error error := by
  rw [of_lookup_eq]
  cases settingOf concurrencyKey defaultSize (lookup concurrencyKey) with
  | error => simp [Except.bind]
  | ok size =>
      cases settingOf timeoutKey defaultMillis (lookup timeoutKey) <;> simp [Except.bind]

/-- A setting is found exactly if its variable gives a number. -/
theorem setting_found_iff {key : String} {default : { number : UInt64 // number ≠ 0 }}
    {held : Option String} :
    (∃ number, settingOf key default held = .ok number) ↔
      ∃ number, Gives default.val.toNat held number := by
  constructor
  · rintro ⟨number, found⟩
    exact ⟨_, setting_ok_iff.mp found⟩
  · rintro ⟨_, gives⟩
    obtain ⟨word, rfl⟩ := gives.word
    exact ⟨word, setting_ok_iff.mpr gives⟩

end Lookups

/-! ## Every number can be written -/

def spelling (zeros number : Nat) : String :=
  String.ofList
    (List.replicate zeros '0' ++ (Decimal.digits number).map fun digit => Char.ofNat (0x30 + digit))

theorem character_of_digit : ∀ digit < 10,
    (Char.ofNat (0x30 + digit)).isDigit = true ∧
      (Char.ofNat (0x30 + digit)).toNat - '0'.toNat = digit := by decide

theorem value_behind_zeros (zeros : Nat) (digits : List Nat) :
    Decimal.value (List.replicate zeros 0 ++ digits) = Decimal.value digits := by
  induction zeros with
  | zero => rfl
  | succ zeros ih => exact ih

theorem writes_spelling (zeros : Nat) {number : Nat} (fits : number < 2 ^ 64) :
    Writes (spelling zeros number) number := by
  obtain ⟨characters, written⟩ : ∃ characters,
      characters = (Decimal.digits number).map fun digit => Char.ofNat (0x30 + digit) := ⟨_, rfl⟩
  have single (digit : Nat) (member : digit ∈ Decimal.digits number) :=
    character_of_digit digit (Decimal.digit_lt_ten number digit member)
  have someDigit : characters ≠ [] := by
    rw [written]
    simpa using Decimal.digits_ne_nil number
  have decimal : ∀ character ∈ characters, character.isDigit = true := by
    intro character member
    rw [written] at member
    obtain ⟨digit, present, rfl⟩ := List.mem_map.mp member
    exact (single digit present).1
  have digits : characters.map (fun character => character.toNat - '0'.toNat) =
      Decimal.digits number := by
    rw [written, List.map_map]
    calc
      (Decimal.digits number).map _ = (Decimal.digits number).map id :=
        List.map_congr_left fun digit present => (single digit present).2
      _ = Decimal.digits number := List.map_id _
  have spelled : (spelling zeros number).toList =
      [] ++ ([] ++ (List.replicate zeros '0' ++ characters) ++ []) := by
    rw [spelling, String.toList_ofList, ← written, List.append_nil, List.nil_append,
      List.nil_append]
  refine .written [] [] _ [] spelled (by simp) (by simp) (.inl rfl)
    (List.append_ne_nil_of_right_ne_nil _ someDigit) ?_ ?_ fits
  · intro character member
    rcases List.mem_append.mp member with zero | digit
    · rw [List.eq_of_mem_replicate zero]
      rfl
    · exact decimal character digit
  · rw [← value_eq_number, List.map_append, digits, List.map_replicate]
    exact (value_behind_zeros zeros _).trans (Decimal.value_digits number)

/-- Settings are found exactly if each variable is unset or writes a number that is not zero, and
then they are these numbers or the defaults. Otherwise the error names the first variable at fault,
and says whether it writes zero or no number at all. Every number below `2 ^ 64` can be written, with
any number of zeros in front. -/
theorem lookup_follows_grammar (lookup : String → Option String) :
    ((∃ config, ofLookup lookup = .ok config) ↔
        (∃ size, Gives 10 (lookup concurrencyKey) size) ∧
          ∃ millis, Gives 5000 (lookup timeoutKey) millis) ∧
      (∀ config, ofLookup lookup = .ok config ↔
          Gives 10 (lookup concurrencyKey) config.concurrency.toNat ∧
            ∃ millis, Gives 5000 (lookup timeoutKey) millis ∧
              config.dequeueTimeout.nanos = millis * nanosPerMilli) ∧
      (∀ error, ofLookup lookup = .error error ↔
          Fault concurrencyKey (lookup concurrencyKey) error ∨
            (∃ size, Gives 10 (lookup concurrencyKey) size) ∧
              Fault timeoutKey (lookup timeoutKey) error) ∧
      ∀ zeros number : Nat, number < 2 ^ 64 → Writes (spelling zeros number) number := by
  have accepted (config : ProcessorConfig) : ofLookup lookup = .ok config ↔
      Gives 10 (lookup concurrencyKey) config.concurrency.toNat ∧
        ∃ millis, Gives 5000 (lookup timeoutKey) millis ∧
          config.dequeueTimeout.nanos = millis * nanosPerMilli := by
    rw [lookup_ok_iff]
    constructor
    · rintro ⟨size, millis, sized, timed, same, timeout⟩
      rw [same, timeout]
      exact ⟨setting_ok_iff.mp sized, _, setting_ok_iff.mp timed, rfl⟩
    · rintro ⟨sized, _, timed, timeout⟩
      obtain ⟨millis, rfl⟩ := @Gives.word defaultMillis _ _ timed
      refine ⟨⟨config.concurrency, config.positive⟩, millis, setting_ok_iff.mpr sized,
        setting_ok_iff.mpr timed, rfl, ?_⟩
      obtain ⟨_, _, _, _⟩ := config
      subst timeout
      rfl
  refine ⟨?_, accepted, ?_, fun zeros number fits => writes_spelling zeros fits⟩
  · constructor
    · rintro ⟨config, found⟩
      obtain ⟨sized, millis, timed, _⟩ := (accepted config).mp found
      exact ⟨⟨_, sized⟩, millis, timed⟩
    · rintro ⟨sized, timed⟩
      obtain ⟨size, sized⟩ : ∃ size,
          settingOf concurrencyKey defaultSize (lookup concurrencyKey) = .ok size :=
        setting_found_iff.mpr sized
      obtain ⟨millis, timed⟩ : ∃ millis,
          settingOf timeoutKey defaultMillis (lookup timeoutKey) = .ok millis :=
        setting_found_iff.mpr timed
      exact
        ⟨{ concurrency := size.val, positive := size.property, dequeueTimeout := .ofMillis millis },
          lookup_ok_iff.mpr ⟨size, millis, sized, timed, rfl, rfl⟩⟩
  · intro error
    rw [lookup_error_iff, setting_error_iff, setting_error_iff, setting_found_iff]
    exact Iff.rfl

end ProcessorConfig

end TaskDispatch
