import Mathlib.Data.List.Nodup

/-!
# Entries under keys

A list may hold an entry for a key. Looking an entry up, after one entry has been updated or the
entries of one key have been removed, finds the updated entry under that key and the same as before
under any other. Where keys are distinct, the list is, up to order, the entry of a key and the
entries elsewhere.
-/

namespace TaskDispatch

set_option autoImplicit false

variable {Item Key : Type} [DecidableEq Key] (key : Item → Key) (items : List Item)

theorem find_after_update {update : Item → Item} {own : Key}
    (keeps : ∀ item, key item = own → key (update item) = own) :
    (items.map fun item => if key item = own then update item else item).find?
        (fun item => decide (key item = own)) =
      (items.find? fun item => decide (key item = own)).map update := by
  induction items with
  | nil => rfl
  | cons first others ih =>
      by_cases same : key first = own
      · simp [same, keeps first same]
      · simp [same, ih]

theorem find_elsewhere_after_update {update : Item → Item} {own other : Key}
    (keeps : ∀ item, key item = own → key (update item) = own) (differs : other ≠ own) :
    (items.map fun item => if key item = own then update item else item).find?
        (fun item => decide (key item = other)) =
      items.find? fun item => decide (key item = other) := by
  induction items with
  | nil => rfl
  | cons first others ih =>
      by_cases same : key first = own
      · simp [same, keeps first same, differs.symm, ih]
      · simp [same, List.find?_cons, ih]

theorem find_elsewhere_after_removal {own other : Key} (differs : other ≠ own) :
    (items.filter fun item => decide (key item ≠ own)).find?
        (fun item => decide (key item = other)) =
      items.find? fun item => decide (key item = other) := by
  rw [List.find?_filter]
  congr 1
  funext item
  by_cases same : key item = other
  · simp [same, differs]
  · simp [same]

variable {key items} {item : Item} {own : Key}

theorem found_of_member (distinct : (items.map key).Nodup) (member : item ∈ items) :
    (items.find? fun other => key other == key item) = some item := by
  cases found : items.find? fun other => key other == key item with
  | none =>
      have passed := List.find?_eq_none.mp found item member
      exact absurd (beq_self_eq_true (key item)) passed
  | some other =>
      have same : key other = key item := by simpa using List.find?_some found
      have present : other ∈ items := List.mem_of_find?_eq_some found
      rw [List.inj_on_of_nodup_map distinct present member same]

theorem entries_around (found : (items.find? fun item => key item == own) = some item)
    (distinct : (items.map key).Nodup) :
    items.Perm (item :: items.filter fun other => key other != own) := by
  have hasKey : key item = own := by simpa using List.find?_some found
  have present : item ∈ items := List.mem_of_find?_eq_some found
  clear found
  induction items with
  | nil => simp at present
  | cons head tail ih =>
      simp only [List.map_cons, List.nodup_cons, List.mem_map, not_exists, not_and] at distinct
      obtain ⟨headAlone, tailDistinct⟩ := distinct
      rcases List.mem_cons.mp present with rfl | inTail
      · have rest : (item :: tail).filter (fun other => key other != own) = tail := by
          rw [List.filter_cons_of_neg (by simp [hasKey]), List.filter_eq_self]
          intro other member
          have differs := headAlone other member
          rw [hasKey] at differs
          simpa using differs
        rw [rest]
      · have differs : key head ≠ own := by
          intro same
          exact headAlone item inTail (hasKey.trans same.symm)
        rw [List.filter_cons_of_pos (by simpa using differs)]
        exact (List.Perm.cons head (ih tailDistinct inTail)).trans (List.Perm.swap item head _)

/-- Replacing an entry by one with its key is removing it and adding the new one. -/
theorem update_around (found : (items.find? fun item => key item == own) = some item)
    (distinct : (items.map key).Nodup) (changed : Item) :
    (items.map fun other => if key other = own then changed else other).Perm
      (changed :: items.filter fun other => key other != own) := by
  have hasKey : key item = own := by simpa using List.find?_some found
  have around := (entries_around found distinct).map fun other =>
    if key other = own then changed else other
  have rest : (items.filter fun other => key other != own).map
      (fun other => if key other = own then changed else other) =
        items.filter fun other => key other != own := by
    calc
      (items.filter fun other => key other != own).map
          (fun other => if key other = own then changed else other) =
          (items.filter fun other => key other != own).map id := by
        apply List.map_congr_left
        intro other member
        have differs : key other ≠ own := by
          simpa using (List.mem_filter.mp member).2
        exact if_neg differs
      _ = items.filter fun other => key other != own := List.map_id _
  rwa [List.map_cons, rest, if_pos hasKey] at around

theorem keys_after_update {changed : Item} (same : key changed = own) :
    (items.map fun other => if key other = own then changed else other).map key =
      items.map key := by
  simp only [List.map_map]
  apply List.map_congr_left
  intro other _
  simp only [Function.comp_apply]
  split
  case isTrue isOwn => exact same.trans isOwn.symm
  case isFalse => rfl

end TaskDispatch
