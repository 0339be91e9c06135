import TaskDispatch.Proofs.Json.Lists
import TaskDispatch.Proofs.Json.Strings
import TaskDispatch.Json.Record

/-!
# Records are read back

The fields of a record are written one after the other and read into slots, each under its own key.
The reader always looks a key up among all fields, while the induction is over those that are still
to come; so the slots of these are embedded in the slots of all, and a key that is still to come is
used the same way in both. A field that is not written must have the value that stands for its
absence.
-/

namespace TaskDispatch

set_option autoImplicit false

namespace Json

def KeyUse.map {σ τ : Type} (embed : σ → τ) : KeyUse σ → KeyUse τ
  | .unknown => .unknown
  | .repeated => .repeated
  | .field read => .field fun cursor => do
      let (slots, after) ← read cursor
      .ok (embed slots, after)

theorem KeyUse.map_id {σ : Type} (use : KeyUse σ) : use.map id = use := by
  cases use with
  | unknown => rfl
  | repeated => rfl
  | field read =>
    simp only [KeyUse.map]
    congr 1
    funext cursor
    cases read cursor <;> rfl

theorem KeyUse.map_map {σ τ υ : Type} (inner : σ → τ) (outer : τ → υ) (use : KeyUse σ) :
    (use.map inner).map outer = use.map fun slots => outer (inner slots) := by
  cases use with
  | unknown => rfl
  | repeated => rfl
  | field read =>
    simp only [KeyUse.map]
    congr 1
    funext cursor
    cases read cursor <;> rfl

namespace Fields

def filled {σ β : Type} (fields : Fields σ β) (values : β) : σ :=
  match fields, values with
  | .nil, () => ()
  | .cons _ presence _ others, (value, rest) =>
      (if presence.skips value then none else some value, others.filled rest)

/-- Each field is read back: a written one by its codec, another one as absent. -/
def ReadBack {σ β : Type} (fields : Fields σ β) (values : β) : Prop :=
  match fields, values with
  | .nil, () => True
  | .cons _ presence codec others, (value, rest) =>
      (if presence.skips value then presence.inObject = some value else codec.Faithful value) ∧
        others.ReadBack rest

theorem complete_filled {σ β : Type} (fields : Fields σ β) :
    ∀ values, fields.ReadBack values → fields.complete (fields.filled values) = .ok values := by
  induction fields with
  | nil => exact fun _ _ => rfl
  | cons key presence codec others ih =>
    intro values back
    obtain ⟨value, rest⟩ := values
    obtain ⟨own, back⟩ := back
    have completed := ih rest back
    cases skipped : presence.skips value with
    | true =>
      rw [skipped, if_pos rfl] at own
      simp only [filled, complete, skipped, if_true, own, bind, Except.bind, completed]
    | false =>
      simp only [filled, complete, skipped, Bool.false_eq_true, if_false, bind, Except.bind,
        completed]

theorem use_other_key {α σ β : Type} {key name : String} {presence : Presence α}
    {codec : Codec α} {others : Fields σ β} (different : name ≠ key) (slot : Option α) (rest : σ) :
    (Fields.cons key presence codec others).useKey name (slot, rest) =
      (others.useKey name rest).map fun rest => (slot, rest) := by
  simp only [useKey, if_neg different]
  cases others.useKey name rest <;> rfl

/-- What is written for the fields is a text. -/
theorem members_are_texts {σ β : Type} (fields : Fields σ β) :
    ∀ values, fields.ReadBack values →
      ∀ member ∈ fields.writeMembers values, Bytes.IsText member ∧ member ≠ [] := by
  induction fields with
  | nil => exact fun _ _ _ member => nomatch member
  | cons key presence codec others ih =>
    intro values back
    obtain ⟨value, rest⟩ := values
    obtain ⟨own, back⟩ := back
    cases skipped : presence.skips value with
    | true =>
      simp only [writeMembers, skipped, if_true]
      exact ih rest back
    | false =>
      rw [skipped, if_neg Bool.false_ne_true] at own
      simp only [writeMembers, skipped, Bool.false_eq_true, if_false]
      intro member among
      rcases List.mem_cons.mp among with rfl | among
      · refine ⟨?_, List.cons_ne_nil _ _⟩
        have valueText := Bytes.is_text_cons (show Ascii.colon < 128 by decide) own.isText
        exact Bytes.is_text_append (written_string_is_text key) valueText
      · exact ih rest back member among

end Fields

/-- A written key is found, and reading goes on behind it. -/
theorem next_key_found (isFirst : Bool) (key : String) {cursor : Cursor} {rest : Bytes}
    (shown : cursor.rest = separator isFirst ++ (writeString key ++ rest)) :
    ∃ after, nextKey isFirst cursor = .ok (some key, after) ∧ after.rest = rest := by
  have stringAt (start : Cursor) (here : start.rest = writeString key ++ rest) :
      (∃ others, start.rest = Ascii.quote :: others) ∧
        ∃ after, readString (start.advance 1) = .ok (key, after) ∧ after.rest = rest := by
    have quoted : start.rest = Ascii.quote ::
        ((Bytes.ofText key).flatMap escapedByte ++ Ascii.quote :: rest) := by
      rw [here]
      simp [writeString]
    exact ⟨⟨_, quoted⟩, read_string key (Cursor.advance_over_one quoted)⟩
  have noBrace : Ascii.quote ≠ Ascii.closeBrace := by decide
  cases isFirst with
  | true =>
    obtain ⟨⟨others, quoted⟩, after, read, ended⟩ := stringAt cursor shown
    refine ⟨after, ?_, ended⟩
    simp only [nextKey, Cursor.skip_blanks_solid quoted (by decide), quoted, if_neg noBrace,
      if_true, read, bind, Except.bind]
  | false =>
    have comma : cursor.rest = Ascii.comma :: (writeString key ++ rest) := shown
    obtain ⟨⟨others, quoted⟩, after, read, ended⟩ :=
      stringAt (cursor.advance 1) (Cursor.advance_over_one comma)
    have goesOn : Ascii.comma ≠ Ascii.closeBrace := by decide
    refine ⟨after, ?_, ended⟩
    simp only [nextKey, Cursor.skip_blanks_solid comma (by decide), comma, if_neg goesOn,
      Bool.false_eq_true, if_false, if_true, Cursor.skip_blanks_solid quoted (by decide), quoted,
      read, bind, Except.bind]

theorem colon_read {cursor : Cursor} {rest : Bytes}
    (shown : cursor.rest = Ascii.colon :: rest) :
    readColon cursor = .ok (cursor.advance 1) := by
  simp only [readColon, Cursor.skip_blanks_solid shown (by decide), shown, if_true]

/-- The members of the fields to come are read back into their slots. -/
theorem read_members {σ₀ β₀ : Type} (shape : RecordShape σ₀ β₀) {σ β : Type}
    (fields : Fields σ β) :
    ∀ (embed : σ → σ₀), fields.keys.Nodup →
      (∀ key ∈ fields.keys, ∀ slots,
        shape.fields.useKey key (embed slots) = (fields.useKey key slots).map embed) →
      ∀ values, fields.ReadBack values → ∀ (isFirst : Bool) (fuel : Nat) (cursor : Cursor)
        (rest : Bytes), (fields.writeMembers values).length < fuel →
        cursor.rest =
          joined isFirst (fields.writeMembers values) ++ Ascii.closeBrace :: rest →
          ∃ after,
            shape.readMembers fuel isFirst (embed fields.unread) cursor =
                .ok (embed (fields.filled values), after) ∧
              after.rest = Ascii.closeBrace :: rest := by
  induction fields with
  | nil =>
    intro embed _ _ values _ isFirst fuel cursor rest enough shown
    obtain ⟨fuel, rfl⟩ := Nat.exists_eq_succ_of_ne_zero (Nat.ne_of_gt (Nat.zero_lt_of_lt enough))
    simp only [Fields.writeMembers, joined_nil, List.nil_append] at shown
    refine ⟨cursor, ?_, shown⟩
    simp only [RecordShape.readMembers, nextKey, Cursor.skip_blanks_solid shown (by decide), shown,
      if_true, bind, Except.bind]
  | cons key presence codec others ih =>
    intro embed distinct embeds values back isFirst fuel cursor rest enough shown
    obtain ⟨value, tail⟩ := values
    obtain ⟨own, back⟩ := back
    obtain ⟨fresh, othersDistinct⟩ := List.nodup_cons.mp distinct
    -- Whatever the own slot holds, the other keys do not look at it.
    have othersEmbed (slot : _) : ∀ name ∈ others.keys, ∀ slots,
        shape.fields.useKey name (embed (slot, slots)) =
          (others.useKey name slots).map fun slots => embed (slot, slots) := by
      intro name among slots
      have different : name ≠ key := by
        rintro rfl
        exact fresh among
      rw [embeds name (List.mem_cons_of_mem _ among), Fields.use_other_key different,
        KeyUse.map_map]
    cases skipped : presence.skips value with
    | true =>
      simp only [Fields.writeMembers, skipped, if_true] at enough shown
      have read := ih (fun slots => embed (none, slots)) othersDistinct (othersEmbed none) tail
        back isFirst fuel cursor rest enough shown
      simpa only [Fields.unread, Fields.filled, skipped, if_true] using read
    | false =>
      rw [skipped, if_neg Bool.false_ne_true] at own
      simp only [Fields.writeMembers, skipped, Bool.false_eq_true, if_false] at enough shown
      obtain ⟨fuel, rfl⟩ :=
        Nat.exists_eq_succ_of_ne_zero (Nat.ne_of_gt (Nat.zero_lt_of_lt enough))
      rw [joined_cons, List.append_assoc, List.append_assoc, List.append_assoc] at shown
      obtain ⟨atColon, found, behindKey⟩ := next_key_found isFirst key shown
      have atValue := Cursor.advance_over_one behindKey
      have delimited := delimited_joined (others.writeMembers tail) (delimited_by_brace rest)
      obtain ⟨behind, valueRead, othersShown⟩ := own.reads _ _ delimited atValue
      obtain ⟨after, read, ended⟩ := ih (fun slots => embed (some value, slots)) othersDistinct
        (othersEmbed (some value)) tail back false fuel behind rest
        (Nat.lt_of_succ_lt_succ enough) othersShown
      refine ⟨after, ?_, ended⟩
      have use := embeds key (List.mem_cons_self ..) (none, others.unread)
      simp only [Fields.useKey, if_true, KeyUse.map] at use
      simp only [RecordShape.readMembers, Fields.unread, Fields.filled, skipped,
        Bool.false_eq_true, if_false, found, bind, Except.bind, use, colon_read behindKey,
        valueRead, read]

end Json

open Json

namespace Codec

/-- A record is read back if its keys are distinct, each of its fields is read back, and the value is
rebuilt from its parts. -/
theorem record_faithful {σ β α : Type} {shape : RecordShape σ β} {build : β → Except Cause α}
    {parts : α → β} {value : α} (distinct : shape.fields.keys.Nodup)
    (back : shape.fields.ReadBack (parts value)) (rebuilt : build (parts value) = .ok value) :
    (record shape build parts).Faithful value where
  isText := by
    have texts := shape.fields.members_are_texts (parts value) back
    have members := joined_is_text true fun member among => (texts member among).1
    have close : Bytes.IsText [Ascii.closeBrace] := Bytes.is_text_of_all_ascii (by decide)
    exact Bytes.is_text_cons (by decide) (Bytes.is_text_append members close)
  begins := ⟨Ascii.openBrace, _, rfl, by decide⟩
  reads := by
    intro cursor rest _ shown
    have front : cursor.rest = Ascii.openBrace ::
        (joined true (shape.fields.writeMembers (parts value)) ++ Ascii.closeBrace :: rest) := by
      rw [shown]
      simp [record, joined]
    have inside := Cursor.advance_over_one front
    have texts := shape.fields.members_are_texts (parts value) back
    have long := length_le_joined true fun member among => (texts member among).2
    have enough : (shape.fields.writeMembers (parts value)).length <
        (cursor.advance 1).rest.length + 1 := by
      rw [inside, List.length_append]
      omega
    obtain ⟨after, read, ended⟩ := read_members shape shape.fields id distinct
      (fun key _ slots => (KeyUse.map_id _).symm) (parts value) back true _ (cursor.advance 1) rest
      enough inside
    refine ⟨after.advance 1, ?_, Cursor.advance_over_one ended⟩
    have completed := shape.fields.complete_filled (parts value) back
    simp only [id] at read
    simp only [record, value_start_solid front (by decide), bind, Except.bind, if_true, read,
      completed, rebuilt]

end Codec

end TaskDispatch
