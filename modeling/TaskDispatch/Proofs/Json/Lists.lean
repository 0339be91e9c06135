import TaskDispatch.Proofs.Json.Faithful

/-!
# Lists, truth values and optional values are read back

The items of a list, like the members of an object, stand one behind the other with commas between
them. Reading them goes by induction: each is read up to the comma or the bracket behind it. There
is always enough fuel, since no item is written with no bytes. Truth values and `null` are read
letter by letter.
-/

namespace TaskDispatch

set_option autoImplicit false

namespace Json

/-- Items behind each other: the first of all has no comma in front. -/
def joined (isFirst : Bool) (items : List Bytes) : Bytes :=
  if isFirst then Codec.joinItems items else items.flatMap fun item => Ascii.comma :: item

def separator (isFirst : Bool) : Bytes := if isFirst then [] else [Ascii.comma]

theorem joined_nil (isFirst : Bool) : joined isFirst [] = [] := by cases isFirst <;> rfl

theorem joined_cons (isFirst : Bool) (item : Bytes) (others : List Bytes) :
    joined isFirst (item :: others) = separator isFirst ++ (item ++ joined false others) := by
  cases isFirst with
  | false => rfl
  | true =>
    induction others generalizing item with
    | nil => exact (List.append_nil item).symm
    | cons next others ih =>
      have rest : Codec.joinItems (next :: others) = next ++ joined false others := ih next
      calc
        joined true (item :: next :: others)
            = item ++ Ascii.comma :: Codec.joinItems (next :: others) := rfl
        _ = item ++ Ascii.comma :: (next ++ joined false others) := by rw [rest]

theorem delimited_joined (items : List Bytes) {rest : Bytes} (delimited : Delimited rest) :
    Delimited (joined false items ++ rest) := by
  cases items with
  | nil => exact delimited
  | cons item others => exact delimited_by_comma _

theorem joined_is_text (isFirst : Bool) {items : List Bytes}
    (texts : ∀ item ∈ items, Bytes.IsText item) : Bytes.IsText (joined isFirst items) := by
  induction items generalizing isFirst with
  | nil =>
    rw [joined_nil]
    exact ⟨[], rfl⟩
  | cons item others ih =>
    rw [joined_cons]
    have mark : Bytes.IsText (separator isFirst) := by
      cases isFirst <;> exact Bytes.is_text_of_all_ascii (by decide)
    have first := texts item (List.mem_cons_self ..)
    have rest := ih false fun next member => texts next (List.mem_cons_of_mem _ member)
    exact Bytes.is_text_append mark (Bytes.is_text_append first rest)

theorem length_le_joined (isFirst : Bool) {items : List Bytes}
    (solid : ∀ item ∈ items, item ≠ []) : items.length ≤ (joined isFirst items).length := by
  induction items generalizing isFirst with
  | nil => exact Nat.zero_le _
  | cons item others ih =>
    have rest := ih false fun next member => solid next (List.mem_cons_of_mem _ member)
    have first := List.length_pos_iff.mpr (solid item (List.mem_cons_self ..))
    rw [joined_cons, List.length_append, List.length_append, List.length_cons]
    omega

theorem read_ident {letters : Bytes} {cursor : Cursor} {rest : Bytes}
    (shown : cursor.rest = letters ++ rest) :
    ∃ after, readIdent letters cursor = .ok after ∧ after.rest = rest := by
  induction letters generalizing cursor with
  | nil => exact ⟨cursor, rfl, shown⟩
  | cons letter letters ih =>
    have front : cursor.rest = letter :: (letters ++ rest) := shown
    obtain ⟨after, read, ended⟩ := ih (Cursor.advance_over_one front)
    refine ⟨after, ?_, ended⟩
    simp only [readIdent, front, if_true, read]

end Json

open Json

namespace Codec

variable {α : Type} {item : Codec α}

theorem Faithful.write_ne_nil {value : α} (faithful : item.Faithful value) :
    item.write value ≠ [] := by
  obtain ⟨first, others, shape, -⟩ := faithful.begins
  rw [shape]
  exact List.cons_ne_nil _ _

/-- Written items are read back up to the closing bracket. -/
theorem read_items {values : List α} (faithful : ∀ value ∈ values, item.Faithful value) :
    ∀ (isFirst : Bool) (fuel : Nat) (cursor : Cursor) (rest : Bytes), values.length < fuel →
      cursor.rest = joined isFirst (values.map item.write) ++ Ascii.closeBracket :: rest →
        ∃ after, readItems item.read fuel isFirst cursor = .ok (values, after) ∧
          after.rest = Ascii.closeBracket :: rest := by
  induction values with
  | nil =>
    intro isFirst fuel cursor rest enough shown
    obtain ⟨fuel, rfl⟩ := Nat.exists_eq_succ_of_ne_zero (Nat.ne_of_gt enough)
    rw [List.map_nil, joined_nil, List.nil_append] at shown
    refine ⟨cursor, ?_, shown⟩
    simp only [readItems, Cursor.skip_blanks_solid shown (by decide), shown, if_true]
  | cons value values ih =>
    intro isFirst fuel cursor rest enough shown
    obtain ⟨fuel, rfl⟩ := Nat.exists_eq_succ_of_ne_zero (Nat.ne_of_gt (Nat.zero_lt_of_lt enough))
    have own := faithful value (List.mem_cons_self ..)
    obtain ⟨first, others, shape, solid, noEnd⟩ := own.begins
    rw [List.map_cons, joined_cons, List.append_assoc, List.append_assoc] at shown
    have delimited := delimited_joined (values.map item.write) (delimited_by_bracket rest)
    -- The item stands at the cursor, or behind a comma there.
    have goesOn (start : Cursor)
        (here : start.rest = item.write value ++
          (joined false (values.map item.write) ++ Ascii.closeBracket :: rest)) :
        ∃ next after, item.read start = .ok (value, next) ∧
          readItems item.read fuel false next = .ok (values, after) ∧
            after.rest = Ascii.closeBracket :: rest := by
      obtain ⟨next, read, behind⟩ := own.reads start _ delimited here
      obtain ⟨after, othersRead, ended⟩ := ih
        (fun other member => faithful other (List.mem_cons_of_mem _ member)) false fuel next rest
        (Nat.lt_of_succ_lt_succ enough) behind
      exact ⟨next, after, read, othersRead, ended⟩
    cases isFirst with
    | true =>
      obtain ⟨next, after, read, othersRead, ended⟩ := goesOn cursor shown
      have front := shown
      rw [shape] at front
      refine ⟨after, ?_, ended⟩
      simp only [readItems, Cursor.skip_blanks_solid front solid, front, separator, if_true,
        List.nil_append, List.cons_append, if_neg noEnd, bind, Except.bind, read, othersRead]
    | false =>
      have comma : cursor.rest = Ascii.comma :: (item.write value ++
          (joined false (values.map item.write) ++ Ascii.closeBracket :: rest)) := shown
      have here := Cursor.advance_over_one comma
      obtain ⟨next, after, read, othersRead, ended⟩ := goesOn (cursor.advance 1) here
      have front := here
      rw [shape, List.cons_append] at front
      have openList : Ascii.comma ≠ Ascii.closeBracket := by decide
      refine ⟨after, ?_, ended⟩
      simp only [readItems, Cursor.skip_blanks_solid comma (by decide), comma, if_neg openList,
        Bool.false_eq_true, if_false, if_true, Cursor.skip_blanks_solid front solid, front,
        if_neg noEnd, bind, Except.bind, read, othersRead]

/-- A list is read back if all of its items are. -/
theorem list_faithful {values : List α} (faithful : ∀ value ∈ values, item.Faithful value) :
    (list item).Faithful values where
  isText := by
    have items : Bytes.IsText (joined true (values.map item.write)) := by
      apply joined_is_text
      intro written member
      obtain ⟨value, valueMember, rfl⟩ := List.mem_map.mp member
      exact (faithful value valueMember).isText
    have close : Bytes.IsText [Ascii.closeBracket] := Bytes.is_text_of_all_ascii (by decide)
    exact Bytes.is_text_cons (by decide) (Bytes.is_text_append items close)
  begins := ⟨Ascii.openBracket, _, rfl, by decide⟩
  reads := by
    intro cursor rest _ shown
    have front : cursor.rest = Ascii.openBracket ::
        (joined true (values.map item.write) ++ Ascii.closeBracket :: rest) := by
      rw [shown]
      simp [list, joined]
    have inside := Cursor.advance_over_one front
    have solid : ∀ written ∈ values.map item.write, written ≠ [] := by
      intro written member
      obtain ⟨value, valueMember, rfl⟩ := List.mem_map.mp member
      exact (faithful value valueMember).write_ne_nil
    have long := length_le_joined true solid
    have enough : values.length < (cursor.advance 1).rest.length + 1 := by
      rw [inside, List.length_append]
      rw [List.length_map] at long
      omega
    obtain ⟨after, read, ended⟩ := read_items faithful true _ _ rest enough inside
    refine ⟨after.advance 1, ?_, Cursor.advance_over_one ended⟩
    simp only [list, value_start_solid front (by decide), bind, Except.bind, if_true, read]

/-- A value that is written as a name is read back if its codec reads the letters of the name. -/
theorem name_faithful {codec : Codec α} {value : α} {first : UInt8} {letters : Bytes}
    (written : codec.write value = first :: letters) (solid : BeginsValue first)
    (ascii : (first :: letters).all (fun letter => decide (letter < 128)) = true)
    (reads : ∀ (cursor after : Cursor) (others : Bytes), cursor.rest = first :: others →
      readIdent letters (cursor.advance 1) = .ok after → codec.read cursor = .ok (value, after)) :
    codec.Faithful value where
  isText := by
    rw [written]
    exact Bytes.is_text_of_all_ascii ascii
  begins := ⟨first, letters, written, solid⟩
  reads := by
    intro cursor rest _ shown
    have front : cursor.rest = first :: (letters ++ rest) := by
      rw [shown, written, List.cons_append]
    obtain ⟨after, read, ended⟩ := read_ident (Cursor.advance_over_one front)
    exact ⟨after, reads cursor after _ front read, ended⟩

theorem boolean_faithful (flag : Bool) : boolean.Faithful flag := by
  cases flag with
  | true =>
    apply name_faithful rfl (by decide) (by decide)
    intro cursor after others front read
    simp only [boolean, value_start_solid front (by decide), if_true, read, bind, Except.bind]
  | false =>
    apply name_faithful rfl (by decide) (by decide)
    intro cursor after others front read
    have other : ¬ (0x66 : UInt8) = 0x74 := by decide
    simp only [boolean, value_start_solid front (by decide), if_neg other, if_true, read, bind,
      Except.bind]

theorem none_faithful : (optional item).Faithful none := by
  apply name_faithful rfl (by decide) (by decide)
  intro cursor after others front read
  simp only [optional, Cursor.skip_blanks_solid front (by decide), front, if_true, read, bind,
    Except.bind]

/-- A value that is there is read back if it does not begin like `null`. -/
theorem some_faithful {value : α} (faithful : item.Faithful value)
    (present : (item.write value).head? ≠ some 0x6e) : (optional item).Faithful (some value) where
  isText := faithful.isText
  begins := faithful.begins
  reads := by
    intro cursor rest delimited shown
    obtain ⟨first, others, shape, solid, -⟩ := faithful.begins
    obtain ⟨after, read, ended⟩ := faithful.reads cursor rest delimited shown
    have front : cursor.rest = first :: (others ++ rest) := by
      rw [shown]
      change item.write value ++ rest = _
      rw [shape, List.cons_append]
    have noNull : first ≠ 0x6e := by
      rintro rfl
      rw [shape] at present
      exact present rfl
    refine ⟨after, ?_, ended⟩
    simp only [optional, Cursor.skip_blanks_solid front solid, front, if_neg noNull, read, bind,
      Except.bind]

end Codec

end TaskDispatch
