import TaskDispatch.Json.Codec
import TaskDispatch.Proofs.Text.Utf8

/-!
# Faithful codecs

A codec is faithful about a value if what it writes for the value is a text that begins like a value,
and this very value is read back from it wherever a compact text lets a value end: at the end of the
text, or in front of a comma or a closing bracket. Whole texts then decode to the value that was
written, and no two such values share a text.
-/

namespace TaskDispatch

set_option autoImplicit false

namespace Json

/-- What may follow a value in a compact text: nothing, a comma or a closing bracket. -/
def Delimited (rest : Bytes) : Prop :=
  ∀ next ∈ rest.head?, next = Ascii.comma ∨ next = Ascii.closeBracket ∨ next = Ascii.closeBrace

theorem delimited_at_end : Delimited [] := fun _ noneLeft => nomatch noneLeft

theorem delimited_by_comma (rest : Bytes) : Delimited (Ascii.comma :: rest) :=
  fun _ head => .inl (Option.some.inj head).symm

theorem delimited_by_bracket (rest : Bytes) : Delimited (Ascii.closeBracket :: rest) :=
  fun _ head => .inr (.inl (Option.some.inj head).symm)

theorem delimited_by_brace (rest : Bytes) : Delimited (Ascii.closeBrace :: rest) :=
  fun _ head => .inr (.inr (Option.some.inj head).symm)

/-- The first byte of a value is no white space and closes no list. -/
def BeginsValue (first : UInt8) : Prop :=
  Cursor.isBlankByte first = false ∧ first ≠ Ascii.closeBracket

instance (first : UInt8) : Decidable (BeginsValue first) :=
  inferInstanceAs (Decidable (_ ∧ _))

namespace Cursor

theorem skip_blanks_solid {cursor : Cursor} {first : UInt8} {others : Bytes}
    (shown : cursor.rest = first :: others) (solid : isBlankByte first = false) :
    cursor.skipBlanks = cursor := by
  have noneBlank : cursor.rest.takeWhile isBlankByte = [] := by
    rw [shown, List.takeWhile_cons, solid]
    rfl
  unfold skipBlanks
  rw [noneBlank]
  rfl

theorem skip_blanks_at_end {cursor : Cursor} (ended : cursor.rest = []) :
    cursor.skipBlanks = cursor := by
  unfold skipBlanks
  rw [ended]
  rfl

theorem advance_over {cursor : Cursor} {taken rest : Bytes} (shown : cursor.rest = taken ++ rest) :
    (cursor.advance taken.length).rest = rest := by
  change cursor.rest.drop taken.length = rest
  rw [shown, List.drop_left]

theorem advance_over_one {cursor : Cursor} {first : UInt8} {rest : Bytes}
    (shown : cursor.rest = first :: rest) : (cursor.advance 1).rest = rest :=
  advance_over (List.singleton_append.symm ▸ shown : cursor.rest = [first] ++ rest)

end Cursor

theorem value_start_solid {cursor : Cursor} {first : UInt8} {others : Bytes}
    (shown : cursor.rest = first :: others) (solid : Cursor.isBlankByte first = false) :
    valueStart cursor = .ok (first, cursor) := by
  unfold valueStart
  rw [Cursor.skip_blanks_solid shown solid]
  simp only [shown]

end Json

open Json

namespace Codec

variable {α : Type}

/-- What is written for a value is a text, begins like a value, and is read back as the value. -/
structure Faithful (codec : Codec α) (value : α) : Prop where
  isText : Bytes.IsText (codec.write value)
  begins : ∃ first others, codec.write value = first :: others ∧ BeginsValue first
  reads : ∀ (cursor : Cursor) (rest : Bytes), Delimited rest →
    cursor.rest = codec.write value ++ rest →
      ∃ after, codec.read cursor = .ok (value, after) ∧ after.rest = rest

variable {codec : Codec α} {value : α}

theorem Faithful.decode_write (faithful : codec.Faithful value) :
    codec.decode (codec.write value) = .ok value := by
  obtain ⟨after, read, ended⟩ := faithful.reads (.start (codec.write value)) [] delimited_at_end
    (List.append_nil _).symm
  unfold decode
  rw [read]
  simp only [bind, Except.bind, Cursor.skip_blanks_at_end ended, ended]
  rfl

theorem Faithful.of_text_text (faithful : codec.Faithful value) :
    Bytes.ofText (codec.text value) = codec.write value := by
  obtain ⟨text, same⟩ := Bytes.is_text_iff.mp faithful.isText
  unfold Codec.text
  rw [same, Bytes.to_text_of_text]
  rfl

/-- The text of a value decodes to the value. -/
theorem Faithful.decode_text (faithful : codec.Faithful value) :
    codec.decode (Bytes.ofText (codec.text value)) = .ok value := by
  rw [faithful.of_text_text]
  exact faithful.decode_write

/-- Values with the same text are the same. -/
theorem Faithful.eq_of_text_eq {other : α} (faithful : codec.Faithful value)
    (otherFaithful : codec.Faithful other) (same : codec.text value = codec.text other) :
    value = other := by
  have read := faithful.decode_text
  rw [same, otherFaithful.decode_text] at read
  exact (Except.ok.inj read).symm

end Codec

end TaskDispatch
