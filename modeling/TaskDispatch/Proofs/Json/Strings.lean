import TaskDispatch.Proofs.Json.Faithful

/-!
# Strings are read back

A byte of a string is written in one of three ways: behind a backslash as a letter of its own, as
four hexadecimal digits, or as it is. Each way is read back as that byte, so by induction over its
bytes a string is read back up to the closing quote. Escapes are written for bytes of seven bits
only, so what is written for a text is a text again.
-/

namespace TaskDispatch

set_option autoImplicit false

namespace Json

theorem hex_value_of_digit : ∀ value < 16, Ascii.hexValue? (Ascii.hexDigit value) = some value := by
  decide

theorem hex_digit_ascii : ∀ value < 16, Ascii.hexDigit value < 128 := by decide

/-- The three ways of writing a byte of a string. -/
theorem escaped_byte_cases (byte : UInt8) :
    (∃ letter, escapedByte byte = [Ascii.backslash, letter] ∧ letter < 128 ∧
        letter ≠ Ascii.lowerU ∧ shortEscape? letter = some byte) ∨
      (byte < 0x20 ∧
        escapedByte byte =
          [Ascii.backslash, Ascii.lowerU, Ascii.zero, Ascii.zero,
            Ascii.hexDigit (byte.toNat / 16), Ascii.hexDigit (byte.toNat % 16)]) ∨
      (escapedByte byte = [byte] ∧ byte ≠ Ascii.quote ∧ byte ≠ Ascii.backslash ∧ ¬ byte < 0x20) := by
  unfold escapedByte
  split
  case isTrue quote => exact .inl ⟨_, rfl, by decide, by decide, by rw [quote]; rfl⟩
  case isFalse noQuote =>
    split
    case isTrue backslash => exact .inl ⟨_, rfl, by decide, by decide, by rw [backslash]; rfl⟩
    case isFalse noBackslash =>
      iterate 5
        split
        · rename_i control
          exact .inl ⟨_, rfl, by decide, by decide, by rw [control]; rfl⟩
      split
      case isTrue control => exact .inr (.inl ⟨control, rfl⟩)
      case isFalse printable => exact .inr (.inr ⟨rfl, noQuote, noBackslash, printable⟩)

theorem escaped_byte_ascii {byte : UInt8} (ascii : byte < 128) :
    ∀ written ∈ escapedByte byte, written < 128 := by
  have small : byte.toNat < 128 := UInt8.lt_iff_toNat_lt.mp ascii
  rcases escaped_byte_cases byte with ⟨letter, shape, letterAscii, -⟩ | ⟨-, shape⟩ | ⟨shape, -⟩
  · rw [shape]
    simpa using ⟨by decide, letterAscii⟩
  · rw [shape]
    have high := hex_digit_ascii (byte.toNat / 16) (by omega)
    have low := hex_digit_ascii (byte.toNat % 16) (by omega)
    simpa using ⟨by decide, by decide, by decide, high, low⟩
  · rw [shape]
    simpa using ascii

theorem escaped_byte_wide {byte : UInt8} (wide : 128 ≤ byte) : escapedByte byte = [byte] := by
  have large : 128 ≤ byte.toNat := UInt8.le_iff_toNat_le.mp wide
  have other (mark : UInt8) (ascii : mark.toNat < 128) : byte ≠ mark := by
    rintro rfl
    omega
  have printable : ¬ byte < 0x20 := by
    rw [UInt8.lt_iff_toNat_lt]
    have control : (0x20 : UInt8).toNat = 0x20 := rfl
    omega
  unfold escapedByte
  rw [if_neg (other _ (by decide)), if_neg (other _ (by decide)), if_neg (other _ (by decide)),
    if_neg (other _ (by decide)), if_neg (other _ (by decide)), if_neg (other _ (by decide)),
    if_neg (other _ (by decide)), if_neg printable]

theorem escaped_wide {bytes : Bytes} (wide : ∀ byte ∈ bytes, 128 ≤ byte) :
    bytes.flatMap escapedByte = bytes := by
  induction bytes with
  | nil => rfl
  | cons byte bytes ih =>
    rw [List.flatMap_cons, escaped_byte_wide (wide byte (List.mem_cons_self ..)),
      ih fun next member => wide next (List.mem_cons_of_mem _ member)]
    rfl

theorem escaped_byte_length (byte : UInt8) : 1 ≤ (escapedByte byte).length := by
  rcases escaped_byte_cases byte with ⟨letter, shape, -⟩ | ⟨-, shape⟩ | ⟨shape, -⟩ <;>
    rw [shape] <;> simp

theorem escaped_length (bytes : Bytes) : bytes.length ≤ (bytes.flatMap escapedByte).length := by
  induction bytes with
  | nil => exact Nat.le_refl _
  | cons byte bytes ih =>
    have first := escaped_byte_length byte
    rw [List.flatMap_cons, List.length_append, List.length_cons]
    omega

/-! ## Reading -/

theorem code_point_of_control {byte : UInt8} (control : byte < 0x20) :
    codePointBytes byte.toNat = [byte] := by
  have small : byte.toNat < 0x20 := UInt8.lt_iff_toNat_lt.mp control
  have number := Bytes.number_of_character (show byte.toNat < 0xd800 by omega)
  unfold codePointBytes
  rw [Bytes.of_text_of_list]
  unfold Bytes.ofCharacters
  rw [List.flatMap_singleton, Bytes.encoded_of_ascii (by omega), number, UInt8.ofNat_toNat]

theorem read_hex_unit {cursor : Cursor} {byte : UInt8} {rest : Bytes}
    (shown : cursor.rest =
      [Ascii.zero, Ascii.zero, Ascii.hexDigit (byte.toNat / 16),
        Ascii.hexDigit (byte.toNat % 16)] ++ rest) :
    readHexUnit cursor = .ok (byte.toNat, cursor.advance 4) := by
  have word := byte.toNat_lt
  have high := hex_value_of_digit (byte.toNat / 16) (by omega)
  have low := hex_value_of_digit (byte.toNat % 16) (by omega)
  have zero : Ascii.hexValue? Ascii.zero = some 0 := rfl
  have whole : ((0 * 16 + 0) * 16 + byte.toNat / 16) * 16 + byte.toNat % 16 = byte.toNat := by
    omega
  unfold readHexUnit
  simp only [shown, List.cons_append, List.nil_append, zero, high, low, Option.bind_eq_bind,
    Option.bind_some, whole]

/-- A written byte is read back, and reading goes on behind it. -/
theorem read_escaped_byte (byte : UInt8) (fuel : Nat) (collected : Bytes) {cursor : Cursor}
    {rest : Bytes} (shown : cursor.rest = escapedByte byte ++ rest) :
    ∃ after : Cursor, after.rest = rest ∧
      readStringBytes (fuel + 1) collected cursor =
        readStringBytes fuel (byte :: collected) after := by
  have marked : Ascii.backslash ≠ Ascii.quote := by decide
  rcases escaped_byte_cases byte with
    ⟨letter, shape, -, noUnit, short⟩ | ⟨control, shape⟩ | ⟨shape, noQuote, noBackslash, printable⟩
  · rw [shape] at shown
    have behind : (cursor.advance 1).rest = letter :: rest := Cursor.advance_over_one shown
    refine ⟨(cursor.advance 1).advance 1, Cursor.advance_over_one behind, ?_⟩
    simp only [readStringBytes, shown, List.cons_append, List.nil_append, if_neg marked, if_true,
      readEscape, behind, if_neg noUnit, short, bind, Except.bind, List.reverse_singleton]
  · rw [shape] at shown
    have behind : (cursor.advance 1).rest = Ascii.lowerU ::
        ([Ascii.zero, Ascii.zero, Ascii.hexDigit (byte.toNat / 16),
          Ascii.hexDigit (byte.toNat % 16)] ++ rest) := Cursor.advance_over_one shown
    have unit := Cursor.advance_over_one behind
    have digits := read_hex_unit unit
    have small : byte.toNat < 0x20 := UInt8.lt_iff_toNat_lt.mp control
    refine ⟨((cursor.advance 1).advance 1).advance 4, ?_, ?_⟩
    · exact Cursor.advance_over unit
    · have noLow : ¬ (0xdc00 ≤ byte.toNat ∧ byte.toNat ≤ 0xdfff) := by omega
      have plain : byte.toNat < 0xd800 ∨ 0xdbff < byte.toNat := by omega
      simp only [readStringBytes, shown, List.cons_append, List.nil_append, if_neg marked,
        if_true, readEscape, behind, readUnicodeEscape, digits, bind, Except.bind, if_neg noLow,
        if_pos plain, code_point_of_control control, List.reverse_singleton]
  · rw [shape] at shown
    refine ⟨cursor.advance 1, Cursor.advance_over_one shown, ?_⟩
    simp only [readStringBytes, shown, List.cons_append, List.nil_append, if_neg noQuote,
      if_neg noBackslash, if_neg printable]

theorem read_string_bytes (bytes : Bytes) :
    ∀ (fuel : Nat) (collected : Bytes) (cursor : Cursor) (rest : Bytes), bytes.length < fuel →
      cursor.rest = bytes.flatMap escapedByte ++ Ascii.quote :: rest →
        ∃ after, readStringBytes fuel collected cursor = .ok (collected.reverse ++ bytes, after) ∧
          after.rest = rest := by
  induction bytes with
  | nil =>
    intro fuel collected cursor rest enough shown
    obtain ⟨fuel, rfl⟩ := Nat.exists_eq_succ_of_ne_zero (Nat.ne_of_gt enough)
    have quoted : cursor.rest = Ascii.quote :: rest := shown
    refine ⟨cursor.advance 1, ?_, Cursor.advance_over_one quoted⟩
    simp only [readStringBytes, quoted, if_true, List.append_nil]
  | cons byte bytes ih =>
    intro fuel collected cursor rest enough shown
    obtain ⟨fuel, rfl⟩ := Nat.exists_eq_succ_of_ne_zero (Nat.ne_of_gt (Nat.zero_lt_of_lt enough))
    rw [List.flatMap_cons, List.append_assoc] at shown
    obtain ⟨next, behind, step⟩ := read_escaped_byte byte fuel collected shown
    obtain ⟨after, read, ended⟩ := ih fuel (byte :: collected) next rest
      (Nat.lt_of_succ_lt_succ enough) behind
    refine ⟨after, ?_, ended⟩
    rw [Nat.succ_eq_add_one, step, read, List.reverse_cons, List.append_assoc]
    rfl

/-- A written string is read back, behind its opening quote. -/
theorem read_string (content : String) {cursor : Cursor} {rest : Bytes}
    (shown : cursor.rest =
      (Bytes.ofText content).flatMap escapedByte ++ Ascii.quote :: rest) :
    ∃ after, readString cursor = .ok (content, after) ∧ after.rest = rest := by
  have long := escaped_length (Bytes.ofText content)
  have enough : (Bytes.ofText content).length < cursor.rest.length + 1 := by
    rw [shown, List.length_append]
    omega
  obtain ⟨after, read, ended⟩ := read_string_bytes _ _ [] cursor rest enough shown
  refine ⟨after, ?_, ended⟩
  unfold readString
  rw [read]
  simp only [bind, Except.bind, List.reverse_nil, List.nil_append, Bytes.to_text_of_text]

/-! ## Writing -/

theorem escaped_character_is_text (character : Char) :
    Bytes.IsText ((String.utf8EncodeChar character).flatMap escapedByte) := by
  by_cases ascii : character.toNat < 128
  · rw [Bytes.encoded_of_ascii ascii, List.flatMap_singleton]
    apply Bytes.is_text_of_ascii
    apply escaped_byte_ascii
    rw [UInt8.lt_iff_toNat_lt, UInt8.toNat_ofNat_of_lt' (Nat.lt_trans ascii (by decide))]
    exact ascii
  · rw [escaped_wide (Bytes.encoded_of_wide (Nat.not_lt.mp ascii))]
    exact ⟨[character], (List.flatMap_singleton ..).symm⟩

theorem escaped_is_text (content : String) :
    Bytes.IsText ((Bytes.ofText content).flatMap escapedByte) := by
  rw [Bytes.of_text_eq]
  unfold Bytes.ofCharacters
  rw [List.flatMap_assoc]
  induction content.toList with
  | nil => exact ⟨[], rfl⟩
  | cons character characters ih =>
    rw [List.flatMap_cons]
    exact Bytes.is_text_append (escaped_character_is_text character) ih

theorem written_string_is_text (content : String) : Bytes.IsText (writeString content) := by
  have quote : Bytes.IsText [Ascii.quote] := Bytes.is_text_of_all_ascii (by decide)
  exact Bytes.is_text_cons (by decide) (Bytes.is_text_append (escaped_is_text content) quote)

end Json

open Json

namespace Codec

/-- Every string is read back, whatever its characters. -/
theorem string_faithful (content : String) : string.Faithful content where
  isText := written_string_is_text content
  begins := ⟨Ascii.quote, _, rfl, by decide⟩
  reads := by
    intro cursor rest _ shown
    have quoted : cursor.rest = Ascii.quote ::
        ((Bytes.ofText content).flatMap escapedByte ++ Ascii.quote :: rest) := by
      rw [shown]
      simp [string, writeString]
    obtain ⟨after, read, ended⟩ := read_string content (Cursor.advance_over_one quoted)
    refine ⟨after, ?_, ended⟩
    simp only [string, value_start_solid quoted (by decide), bind, Except.bind, if_true, read]

/-- A type with a grammar of its own is read back if its grammar reads what it displays. -/
theorem parsed_string_faithful {α : Type} {display : α → String}
    {parse : String → Except Cause α} {value : α} (parsed : parse (display value) = .ok value) :
    (parsedString display parse).Faithful value where
  isText := written_string_is_text (display value)
  begins := (string_faithful (display value)).begins
  reads := by
    intro cursor rest delimited shown
    obtain ⟨after, read, ended⟩ := (string_faithful (display value)).reads cursor rest delimited
      shown
    refine ⟨after, ?_, ended⟩
    simp only [parsedString, read, bind, Except.bind, parsed]

/-- The JSON form of any text that the grammar reads is read, also if it is displayed otherwise. -/
theorem decode_parsed_string {α : Type} (display : α → String) {parse : String → Except Cause α}
    {content : String} {value : α} (parsed : parse content = .ok value) :
    (parsedString display parse).decode (writeString content) = .ok value := by
  have faithful : (parsedString (fun _ => content) parse).Faithful value :=
    parsed_string_faithful parsed
  exact faithful.decode_write

end Codec

end TaskDispatch
