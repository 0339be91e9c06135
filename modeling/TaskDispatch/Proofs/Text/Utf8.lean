import TaskDispatch.Text.Bytes

/-!
# Texts and their bytes

The bytes of a text are those of its characters, one after the other, and they are read back as that
text. A character of seven bits is one byte with its number; the bytes of all other characters have
their top bit set. `IsText` says of bytes that they are those of some text; such bytes may be joined.
-/

namespace TaskDispatch.Bytes

set_option autoImplicit false

def ofCharacters (characters : List Char) : Bytes := characters.flatMap String.utf8EncodeChar

theorem to_list_to_byte_array (bytes : Bytes) : bytes.toByteArray.data.toList = bytes := by
  rw [List.data_toByteArray, List.toList_toArray]

theorem of_text_of_list (characters : List Char) :
    ofText (String.ofList characters) = ofCharacters characters :=
  to_list_to_byte_array _

theorem of_text_eq (text : String) : ofText text = ofCharacters text.toList := by
  rw [← of_text_of_list, String.ofList_toList]

theorem length_of_text (text : String) : (ofText text).length = text.utf8ByteSize := rfl

theorem to_text_of_text (text : String) : toText? (ofText text) = some text := by
  have same : (⟨(ofText text).toArray⟩ : ByteArray) = text.toByteArray := by
    unfold ofText
    rw [Array.toArray_toList]
    rfl
  unfold toText? String.fromUTF8?
  rw [same, dif_pos text.isValidUTF8]
  rfl

theorem number_of_character {number : Nat} (plain : number < 0xd800) :
    (Char.ofNat number).toNat = number := by
  rw [Char.ofNat, dif_pos (Or.inl plain)]
  rfl

theorem encoded_of_ascii {character : Char} (ascii : character.toNat < 128) :
    String.utf8EncodeChar character = [UInt8.ofNat character.toNat] := by
  have small : character.val.toNat ≤ 127 := Nat.lt_succ_iff.mp ascii
  simp only [String.utf8EncodeChar, if_pos small]
  rfl

/-- Characters of seven bits have one byte each, with their number. -/
theorem bytes_of_ascii {characters : List Char}
    (ascii : ∀ character ∈ characters, character.toNat < 128) :
    ofCharacters characters = characters.map fun character => UInt8.ofNat character.toNat := by
  induction characters with
  | nil => rfl
  | cons character characters ih =>
    have others := ih fun next member => ascii next (List.mem_cons_of_mem _ member)
    unfold ofCharacters at others ⊢
    rw [List.flatMap_cons, others, encoded_of_ascii (ascii character (List.mem_cons_self ..))]
    rfl

theorem length_of_ascii {characters : List Char}
    (ascii : ∀ character ∈ characters, character.toNat < 128) :
    (ofCharacters characters).length = characters.length := by
  rw [bytes_of_ascii ascii, List.length_map]

/-- All bytes of a character beyond seven bits have their top bit set. -/
theorem encoded_of_wide {character : Char} (wide : 128 ≤ character.toNat) :
    ∀ byte ∈ String.utf8EncodeChar character, 128 ≤ byte := by
  have large : ¬ character.val.toNat ≤ 127 := Nat.not_le.mpr wide
  have marked (number : Nat) (high : 128 ≤ number) (word : number < 256) :
      128 ≤ UInt8.ofNat number := by
    rw [UInt8.le_iff_toNat_le, UInt8.toNat_ofNat_of_lt' word]
    exact high
  intro byte member
  simp only [String.utf8EncodeChar, if_neg large] at member
  split at member
  case isTrue =>
    simp only [List.mem_cons, List.not_mem_nil, or_false] at member
    rcases member with rfl | rfl <;> exact marked _ (by omega) (by omega)
  case isFalse =>
    split at member <;>
    · simp only [List.mem_cons, List.not_mem_nil, or_false] at member
      rcases member with rfl | rfl | rfl | rfl <;> exact marked _ (by omega) (by omega)

def IsText (bytes : Bytes) : Prop := ∃ characters, bytes = ofCharacters characters

theorem is_text_of_text (text : String) : IsText (ofText text) := ⟨_, of_text_eq text⟩

theorem is_text_append {left right : Bytes} (first : IsText left) (second : IsText right) :
    IsText (left ++ right) := by
  obtain ⟨characters, rfl⟩ := first
  obtain ⟨others, rfl⟩ := second
  exact ⟨characters ++ others, List.flatMap_append.symm⟩

theorem is_text_of_ascii {bytes : Bytes} (ascii : ∀ byte ∈ bytes, byte < 128) : IsText bytes := by
  induction bytes with
  | nil => exact ⟨[], rfl⟩
  | cons byte bytes ih =>
    have seven : byte.toNat < 128 := UInt8.lt_iff_toNat_lt.mp (ascii byte (List.mem_cons_self ..))
    have number : (Char.ofNat byte.toNat).toNat = byte.toNat := number_of_character (by omega)
    have single : IsText [byte] := by
      refine ⟨[Char.ofNat byte.toNat], ?_⟩
      unfold ofCharacters
      rw [List.flatMap_singleton, encoded_of_ascii (by omega), number, UInt8.ofNat_toNat]
    have others := ih fun next member => ascii next (List.mem_cons_of_mem _ member)
    exact is_text_append single others

theorem is_text_of_all_ascii {bytes : Bytes}
    (ascii : bytes.all (fun byte => decide (byte < 128)) = true) : IsText bytes :=
  is_text_of_ascii fun byte member => of_decide_eq_true (List.all_eq_true.mp ascii byte member)

theorem is_text_cons {byte : UInt8} {bytes : Bytes} (ascii : byte < 128) (text : IsText bytes) :
    IsText (byte :: bytes) := by
  have single : IsText [byte] := is_text_of_ascii (by simpa using ascii)
  exact is_text_append single text

theorem is_text_iff {bytes : Bytes} : IsText bytes ↔ ∃ text, bytes = ofText text := by
  constructor
  · rintro ⟨characters, rfl⟩
    exact ⟨String.ofList characters, (of_text_of_list characters).symm⟩
  · rintro ⟨text, rfl⟩
    exact is_text_of_text text

end TaskDispatch.Bytes
