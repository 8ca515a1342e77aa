import AdaptiveForm.Proofs.Field.Finishing
import AdaptiveForm.Proofs.Schema.Conformance
import AdaptiveForm.Schema.Form

/-!
# Fields that fit the schema

A row whose columns hold texts is built into a field that the schema of form definitions allows.
What is kept on the way is `Fitting`: under every key stands what the schema wants there, or a text
under a key where a sheet may have texts.  Each step of finishing keeps this, `Fitting.step`.  At
the end texts are left only where the schema allows them, as option lists have been split and
`required` is a truth value.
-/

namespace AdaptiveForm

open Schema (Part formSchema Conforms)

/-- The attributes that are objects of texts, and what the schema wants them to be. -/
def textGroups : List (String × Part) := [
  ("rules", .expressions),
  ("events", .expressions),
  ("constraintMessages", .expressions),
  ("label", .label)]

/-- Whether texts may stand in a column: in one without dots, unless it is that of the items, rules
or events as a whole, and in one for a text of a group. -/
def isTextColumn (column : String) : Bool :=
  match Text.split '.' column with
  | [name] => !(["items", "rules", "events"].contains name)
  | [head, _] => (textGroups.map Prod.fst).contains head
  | _ => false

/-! ### Parts of a field -/

namespace Schema

theorem conforms_text {part : Part} (h : part = .text ∨ part = .name ∨ part = .label) (s : String) :
    Conforms formSchema (.string s) part := by
  rcases h with rfl | rfl | rfl
  · exact conforms_string (.inr (by decide)) (by simp [formSchema]) rfl
  · exact conforms_string (.inr (by decide)) (by simp [formSchema]) rfl
  · exact conforms_string (.inr (by decide)) (by simp [formSchema]) rfl

theorem conforms_anything (s : String) : Conforms formSchema (.string s) .anything :=
  conforms_string (.inl rfl) (by simp [formSchema]) rfl

theorem conforms_list (items : List Json) : Conforms formSchema (.array items) .list :=
  conforms_array.mpr ⟨.inr (by decide), by simp [formSchema], rfl⟩

theorem conforms_flag (flag : Bool) : Conforms formSchema (.bool flag) .flag :=
  conforms_bool (.inr (by decide)) rfl

theorem conforms_noTexts {part : Part} (h : part = .expressions ∨ part = .label) :
    Conforms formSchema (.object []) part := by
  refine conforms_object.mpr ⟨?_, ?_, ?_, ?_, ?_⟩
  · rcases h with rfl | rfl <;> exact .inr (by decide)
  · rcases h with rfl | rfl <;> simp [formSchema]
  · intro _ _ _ value hvalue
    cases hvalue
  · intro _ _ _ value hvalue
    cases hvalue
  · rcases h with rfl | rfl <;> exact .inl rfl

theorem Conforms.insertText {part : Part} (hpart : part = .expressions ∨ part = .label)
    {entries : Entries} (h : Conforms formSchema (.object entries) part) (key s : String) :
    Conforms formSchema (.object (entries.insert key (.string s))) part := by
  refine h.insert ?_ ?_ ?_
  · intro part' hkey
    rcases hpart with rfl | rfl
    · cases hkey
    · have hparts : part' = .text ∨ part' = .anything := by
        simp only [formSchema, List.mem_cons, Prod.mk.injEq, List.not_mem_nil, or_false] at hkey
        exact hkey.imp And.right And.right
      rcases hparts with rfl | rfl
      · exact conforms_text (.inl rfl) s
      · exact conforms_anything s
  · intro other hother
    rcases hpart with rfl | rfl
    · cases hother
      exact conforms_text (.inl rfl) s
    · cases hother
  · rcases hpart with rfl | rfl <;> exact List.not_mem_nil

end Schema

namespace Field

open Schema

/-- What may stand under a key while a field is built: what the schema wants, or a text where a
sheet may have one. -/
inductive Fits (key : String) : Json → Prop
  | text (s : String) (h : isTextColumn key = true) (hne : key ≠ "constraintMessages") :
      Fits key (.string s)
  | part {part : Part} {value : Json} (h : (key, part) ∈ (formSchema .field).properties)
      (hv : Conforms formSchema value part) : Fits key value

def Fitting (field : Field) : Prop :=
  ∀ key value, field.get? key = some value → Fits key value

variable {field field' : Field}

theorem Fitting.insert (h : Fitting field) {key : String} {value : Json} (hv : Fits key value) :
    Fitting (Entries.insert field key value) := by
  intro k v hk
  by_cases hkey : k = key
  · subst hkey
    rw [Entries.get?_insert_self, Option.some.injEq] at hk
    exact hk ▸ hv
  · rw [Entries.get?_insert_of_ne _ _ hkey] at hk
    exact h k v hk

theorem Fitting.erase (h : Fitting field) (key : String) : Fitting (Entries.erase field key) := by
  intro k v hk
  by_cases hkey : k = key
  · rw [hkey, Entries.get?_erase_self] at hk
    cases hk
  · rw [Entries.get?_erase_of_ne _ hkey] at hk
    exact h k v hk

/-! ### Groups of texts -/

theorem mem_properties_of_textGroups {head : String} {part : Part}
    (h : (head, part) ∈ textGroups) : (head, part) ∈ (formSchema .field).properties := by
  revert h
  simp only [textGroups, formSchema, List.mem_cons, List.not_mem_nil, or_false]
  tauto

theorem part_of_textGroups {head : String} {part : Part} (h : (head, part) ∈ textGroups) :
    part = .expressions ∨ part = .label := by
  simp only [textGroups, List.mem_cons, Prod.mk.injEq, List.not_mem_nil, or_false] at h
  tauto

/-- The schema speaks of every key once. -/
theorem part_unique {key : String} {part part' : Part}
    (h : (key, part) ∈ (formSchema .field).properties)
    (h' : (key, part') ∈ (formSchema .field).properties) : part = part' := by
  have hall : ∀ property ∈ (formSchema .field).properties,
      ∀ property' ∈ (formSchema .field).properties,
      property.1 = property'.1 → property.2 = property'.2 := by decide
  exact hall _ h _ h' rfl

theorem Fitting.entriesAt (h : Fitting field) {head : String} {part : Part}
    (hgroup : (head, part) ∈ textGroups) :
    Conforms formSchema (.object (entriesAt field head)) part := by
  unfold Field.entriesAt
  split
  · rename_i entries hentries
    cases h head _ hentries with
    | part hpart hv =>
      rw [part_unique (mem_properties_of_textGroups hgroup) hpart]
      exact hv
  · exact conforms_noTexts (part_of_textGroups hgroup)

theorem Fitting.insertText (h : Fitting field) {head : String} {part : Part}
    (hgroup : (head, part) ∈ textGroups) (key s : String) : Fitting
      (Entries.insert field head (.object ((Field.entriesAt field head).insert key (.string s)))) :=
  h.insert (.part (mem_properties_of_textGroups hgroup)
    ((h.entriesAt hgroup).insertText (part_of_textGroups hgroup) key s))

/-! ### Steps -/

theorem not_isDotted_of_mem_properties {key : String} {part : Part}
    (h : (key, part) ∈ (formSchema .field).properties) : isDotted key = false := by
  have hall : ∀ property ∈ (formSchema .field).properties, isDotted property.1 = false := by decide
  exact hall _ h

theorem Fitting.expandKey (h : Fitting field) {key : String} (hkey : isDotted key = true) :
    Fitting (field.expandKey key) := by
  cases hvalue : field.get? key with
  | none =>
    rw [Field.expandKey, hvalue]
    exact h
  | some value =>
    obtain ⟨head, rest, hsplit, hrest, -⟩ := split_of_isDotted hkey
    rw [expandKey_eq hvalue hsplit hrest]
    cases h key value hvalue with
    | part hpart _ =>
      rw [not_isDotted_of_mem_properties hpart] at hkey
      cases hkey
    | text s hcolumn =>
      rw [isTextColumn, hsplit] at hcolumn
      obtain ⟨last, rfl⟩ : ∃ last, rest = [last] := by
        cases rest with
        | nil => exact absurd rfl hrest
        | cons last more =>
          cases more with
          | nil => exact ⟨last, rfl⟩
          | cons _ _ => cases hcolumn
      obtain ⟨⟨_, part⟩, hgroup, rfl⟩ := List.mem_map.mp (List.contains_iff_mem.mp hcolumn)
      exact (h.erase key).insertText hgroup last s

/-- **Every step of finishing keeps what fits.** -/
theorem Fitting.step (hstep : FinishStep field field') (h : Fitting field) : Fitting field' := by
  cases hstep with
  | event event expression =>
    have hevents : ("events", Part.expressions) ∈ textGroups := by decide
    exact h.insertText hevents event expression
  | type type =>
    have htype : ("fieldType", Part.text) ∈ (formSchema .field).properties := by decide
    exact h.insert (.part htype (conforms_text (.inl rfl) type))
  | expand hkey => exact h.expandKey hkey
  | @list key hkey s =>
    have hlist : (key, Part.list) ∈ (formSchema .field).properties := by
      rcases hkey with rfl | rfl <;> decide
    exact h.insert (.part hlist (conforms_list _))
  | required flag =>
    have hrequired : ("required", Part.flag) ∈ (formSchema .field).properties := by decide
    exact h.insert (.part hrequired (conforms_flag flag))
  | nameless =>
    have hname : ("name", Part.name) ∈ (formSchema .field).properties := by decide
    exact h.insert (.part hname (conforms_null (.inr (by decide)) rfl))

theorem Fitting.setValueRule (h : Fitting field) (rule : String) :
    Fitting (field.setValueRule rule) := by
  unfold Field.setValueRule
  split
  · rename_i rules hrules
    have hgroup : ("rules", Part.expressions) ∈ textGroups := by decide
    have hset := h.insertText hgroup "value" rule
    rwa [Field.entriesAt, hrules] at hset
  · exact h

/-! ### Rows of texts -/

def OfTexts (row : Entries) : Prop :=
  ∀ entry ∈ row, isTextColumn entry.1 = true ∧ entry.2.asString?.isSome = true

instance (row : Entries) : Decidable (OfTexts row) :=
  List.decidableBAll _ row

/-- A row of texts is normalized to a field that fits. -/
theorem fitting_normalizeRow {row : Entries} (h : OfTexts row) :
    Fitting (normalizeRow .usual row) := by
  have hinserted : Fitting (Entries.insert (stripBlanks row) "constraintMessages"
      (.object [("required", .string Settings.usual.requiredMessage)])) := by
    intro key value hget
    by_cases hkey : key = "constraintMessages"
    · subst hkey
      rw [Entries.get?_insert_self, Option.some.injEq] at hget
      have hmessages : ("constraintMessages", Part.expressions) ∈ textGroups := by decide
      refine .part (mem_properties_of_textGroups hmessages) ?_
      rw [← hget]
      exact (conforms_noTexts (.inl rfl)).insertText (.inl rfl) _ _
    · rw [Entries.get?_insert_of_ne _ _ hkey] at hget
      have hmem := Entries.mem_of_get? _ hget
      obtain ⟨hcolumn, htext⟩ := h _ (List.mem_filter.mp hmem).1
      cases value with
      | string s => exact .text s hcolumn hkey
      | _ => cases htext
  refine normalizeNames_induction ?_ hinserted
  intro field rename hmem value hvalue hfit
  have hsource : ∀ rename ∈ Mappings.usual.names,
      ∀ property ∈ (formSchema .field).properties, property.1 ≠ rename.source := by decide
  have htarget : ∀ rename ∈ Mappings.usual.names,
      isTextColumn rename.target = true ∧ rename.target ≠ "constraintMessages" := by decide
  refine (hfit.erase rename.source).insert ?_
  cases hfit rename.source value hvalue with
  | text s => exact .text s (htarget rename hmem).1 (htarget rename hmem).2
  | part hpart => exact absurd rfl (hsource rename hmem _ hpart)

/-- What fits conforms, once no option list is a text, `required` is a truth value and there is no
parent. -/
theorem Fitting.conforms (h : Fitting field)
    (hlists : ∀ key, key = "enum" ∨ key = "enumNames" → ∀ s, field.get? key ≠ some (.string s))
    (hrequired : ∀ s, field.get? "required" ≠ some (.string s))
    (hparent : field.get? "parent" = none) : Conforms formSchema (.object field) .field := by
  refine conforms_object.mpr ⟨.inr (by decide), by simp [formSchema], ?_, by simp [formSchema], ?_⟩
  · intro key part hpart value hvalue
    cases h key value hvalue with
    | part hpart' hv =>
      rw [part_unique hpart hpart']
      exact hv
    | text s hcolumn hne =>
      -- where texts may be left the schema allows them
      have hall : ∀ property ∈ (formSchema .field).properties, isTextColumn property.1 = true →
          property.1 ≠ "constraintMessages" →
          (property.2 = .text ∨ property.2 = .name ∨ property.2 = .label) ∨
          (property.1 = "enum" ∨ property.1 = "enumNames") ∨ property.1 = "required" := by decide
      rcases hall _ hpart hcolumn hne with hallowed | hlist | rfl
      · exact conforms_text hallowed s
      · exact absurd hvalue (hlists key hlist s)
      · exact absurd hvalue (hrequired s)
  · refine .inr ⟨"parent", List.mem_singleton_self _, ?_⟩
    rw [Entries.contains_eq_isSome, hparent]
    rfl

end Field

end AdaptiveForm
