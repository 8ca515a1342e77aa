import AdaptiveForm.Proofs.Field.Submitting

/-!
# Attributes after expansion

Expanding takes every dotted column away and adds no other, so that no attribute of an expanded
field has a dot in its name (`isDotted_of_mem_keys_expand`).  What an attribute holds afterwards
depends on what it held before and on the dotted columns alone: the click event and the type of the
form, which are set first, make no difference to any other attribute (`get?_expand_typed`).
-/

namespace AdaptiveForm.Field

open AdaptiveForm.Text

variable {field field' : Field}

/-! ### No dots are left -/

/-- The dotted columns of a field that is being expanded are among those still to come. -/
theorem isDotted_of_mem_keys_foldl {keys : List String} (hdotted : ∀ k ∈ keys, isDotted k = true)
    (h : ∀ key ∈ Entries.keys field, isDotted key = true → key ∈ keys) :
    ∀ key ∈ Entries.keys (keys.foldl expandKey field), isDotted key = false := by
  induction keys generalizing field with
  | nil =>
    intro key hkey
    rw [Bool.eq_false_iff]
    exact fun hdot => List.not_mem_nil (h key hkey hdot)
  | cons k keys ih =>
    rw [List.forall_mem_cons] at hdotted
    refine ih hdotted.2 ?_
    intro key hkey hdot
    cases hvalue : field.get? k with
    | none =>
      rw [expandKey_of_none hvalue] at hkey
      rcases List.mem_cons.mp (h key hkey hdot) with rfl | hlater
      · obtain ⟨value, hsome⟩ := Entries.exists_get?_of_mem_keys field hkey
        cases hvalue.symm.trans hsome
      · exact hlater
    | some value =>
      obtain ⟨head, rest, hsplit, hrest, hhead⟩ := split_of_isDotted hdotted.1
      rw [expandKey_eq hvalue hsplit hrest] at hkey
      rcases Entries.mem_keys_insert _ _ _ hkey with rfl | hold
      · rw [hhead] at hdot
        cases hdot
      · rw [Entries.keys_erase, List.mem_filter, bne_iff_ne] at hold
        exact List.mem_of_ne_of_mem hold.2 (h key hold.1 hdot)

/-- **No attribute of an expanded field has a dot in its name.** -/
theorem isDotted_of_mem_keys_expand {key : String} (h : key ∈ Entries.keys field.expand) :
    isDotted key = false :=
  isDotted_of_mem_keys_foldl (fun _ hk => (List.mem_filter.mp hk).2)
    (fun _ hk hdot => List.mem_filter.mpr ⟨hk, hdot⟩) key h

/-! ### What an attribute depends on -/

/-- The fields hold the same in the attribute and in all dotted columns. -/
structure SameAt (key : String) (field field' : Field) : Prop where
  value : field'.get? key = field.get? key
  columns : ∀ k, isDotted k = true → field'.get? k = field.get? k

theorem SameAt.expandKey {key : String} (h : SameAt key field field')
    (hkey : isDotted key = false) {k : String} (hk : isDotted k = true) :
    SameAt key (field.expandKey k) (field'.expandKey k) := by
  have hsame := h.columns k hk
  cases hvalue : field.get? k with
  | none =>
    rw [expandKey_of_none hvalue, expandKey_of_none (hsame.trans hvalue)]
    exact h
  | some value =>
    obtain ⟨head, rest, hsplit, hrest, hhead⟩ := split_of_isDotted hk
    have herased : ∀ {other}, other ≠ k → field'.get? other = field.get? other →
        (Entries.erase field' k).get? other = (Entries.erase field k).get? other := by
      intro other hne heq
      rw [Entries.get?_erase_of_ne _ hne, Entries.get?_erase_of_ne _ hne, heq]
    have hkept : key ≠ k := by
      rintro rfl
      rw [hkey] at hk
      cases hk
    rw [expandKey_eq hvalue hsplit hrest, expandKey_eq (hsame.trans hvalue) hsplit hrest]
    constructor
    · by_cases hat : key = head
      · subst hat
        rw [Entries.get?_insert_self, Entries.get?_insert_self,
          entriesAt_of_get?_eq (herased hkept h.value)]
      · rw [Entries.get?_insert_of_ne _ _ hat, Entries.get?_insert_of_ne _ _ hat]
        exact herased hkept h.value
    · intro other hother
      have hne : other ≠ head := by
        rintro rfl
        rw [hhead] at hother
        cases hother
      rw [Entries.get?_insert_of_ne _ _ hne, Entries.get?_insert_of_ne _ _ hne]
      by_cases hk' : other = k
      · rw [hk', Entries.get?_erase_self, Entries.get?_erase_self]
      · exact herased hk' (h.columns other hother)

/-- **Expanding does not look at other attributes** than the one it leads to. -/
theorem get?_expand_congr {key : String} (hkey : isDotted key = false)
    (hcolumns : SameColumns field field') (hvalue : field'.get? key = field.get? key) :
    field'.expand.get? key = field.expand.get? key := by
  have hfold : ∀ {keys : List String} {field field' : Field}, (∀ k ∈ keys, isDotted k = true) →
      SameAt key field field' →
      SameAt key (keys.foldl Field.expandKey field) (keys.foldl Field.expandKey field') := by
    intro keys
    induction keys with
    | nil => exact fun _ h => h
    | cons k keys ih =>
      intro field field' hdotted h
      rw [List.forall_mem_cons] at hdotted
      exact ih hdotted.2 (h.expandKey hkey hdotted.1)
  rw [expand, expand, hcolumns.keys]
  exact (hfold (fun _ hk => (List.mem_filter.mp hk).2) ⟨hvalue, hcolumns.values⟩).value

/-- The attributes of a field that is expanded as a step of finishing are those of the expanded row,
but for the events and the type. -/
theorem get?_expand_typed (settings : Settings) (field : Field) {key : String}
    (hkey : isDotted key = false) (hevents : key ≠ "events") (htype : key ≠ "fieldType") :
    ((field.applySubmit settings.submission).mapType settings.mappings).expand.get? key =
      field.expand.get? key := by
  refine get?_expand_congr hkey (sameColumns_typed settings field) ?_
  have hsubmit : (field.applySubmit settings.submission).get? key = field.get? key := by
    rw [applySubmit]
    split_ifs
    · exact get?_setEvent hevents _ _ _
    · rfl
  rw [mapType]
  split
  · rw [Entries.get?_insert_of_ne _ _ htype, hsubmit]
  · exact hsubmit

end AdaptiveForm.Field
