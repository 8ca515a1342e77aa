import AdaptiveForm.Proofs.Field.Fitting
import AdaptiveForm.Proofs.Form.Document

/-!
# Documents that the schema allows

Rows of texts make a form definition that the schema accepts.  Every field of the document is that
of a row, so it conforms as `Fitting` says, and so does a field with others inside.  Around the
fields stands what every document has, and properties that the schema does not look into.
-/

namespace AdaptiveForm

open Schema (Part formSchema Conforms conforms_object conforms_array conforms_string conforms_text)

/-! ### Fields inside fields -/

namespace Tree

theorem conforms_withItems {field : Field} (h : Conforms formSchema (.object field) .field)
    {values : List Json} (hvalues : ∀ value ∈ values, Conforms formSchema value .field) :
    Conforms formSchema (.object (withItems field values)) .field := by
  have hfields : ∀ values, (∀ value ∈ values, Conforms formSchema value .field) ↔
      Conforms formSchema (.array values) .fields := by
    intro values
    rw [conforms_array]
    simp [formSchema, Schema.Shape.Allows]
  have hset : ∀ values, (∀ value ∈ values, Conforms formSchema value .field) →
      Conforms formSchema (.object (Entries.insert field "items" (.array values))) .field := by
    intro values hvalues
    refine h.insert ?_ (by simp [formSchema]) (by simp [formSchema])
    intro part hpart
    have hitems : ("items", Part.fields) ∈ (formSchema .field).properties := by decide
    rw [Field.part_unique hpart hitems]
    exact (hfields values).mp hvalues
  rw [withItems]
  split
  · rename_i own hown
    refine hset _ fun value hvalue => ?_
    obtain ⟨-, -, hproperties, -, -⟩ := conforms_object.mp h
    have howned := hproperties "items" .fields (by decide) _ hown
    rcases List.mem_append.mp hvalue with hvalue | hvalue
    · exact (hfields own).mpr howned value hvalue
    · exact hvalues value hvalue
  · exact hset values hvalues

theorem conforms_noAttributes : Conforms formSchema (.object []) .field := by
  refine conforms_object.mpr ⟨.inr (by decide), by simp [formSchema], ?_, by simp [formSchema], ?_⟩
  · intro _ _ _ value hvalue
    cases hvalue
  · exact .inr ⟨"parent", List.mem_singleton_self _, rfl⟩

variable {tree : Tree}

mutual

/-- **A nest of fields conforms** if each of its fields does. -/
theorem conforms_render (h : ∀ i field, tree.field? i = some field →
    Conforms formSchema (.object field) .field) :
    ∀ nest : Nest, Conforms formSchema (tree.render nest) .field
  | .mk id inside => by
    have hfield : Conforms formSchema (.object ((tree.field? id).getD [])) .field := by
      cases hget : tree.field? id with
      | none => exact conforms_noAttributes
      | some field => exact h id field hget
    rw [render]
    split_ifs
    · exact hfield
    · exact conforms_withItems hfield (conforms_renderAll h inside)

theorem conforms_renderAll (h : ∀ i field, tree.field? i = some field →
    Conforms formSchema (.object field) .field) :
    ∀ nests : List Nest, ∀ value ∈ tree.renderAll nests, Conforms formSchema value .field
  | [] => by simp [renderAll]
  | nest :: nests => by
    rw [renderAll, List.forall_mem_cons]
    exact ⟨conforms_render h nest, conforms_renderAll h nests⟩

end

end Tree

/-! ### The field of a row -/

open Rows

theorem Field.Fitting.compiled {field : Field} (h : Field.Fitting field) (paths : Rule.RowPaths)
    (validate : Bool) : Field.Fitting (field.compiled paths validate) := by
  rw [Field.compiled]
  split
  · exact h
  · split
    · exact h.setValueRule _
    · exact h

/-- **The field of a row of texts conforms.** -/
theorem Rows.conforms_shown {row : Entries} (h : Field.OfTexts row) (validate : Bool)
    (rows : List Json) :
    Conforms formSchema (.object (shown .usual validate rows row)) .field := by
  have hfinished : Field.Fitting (finished .usual row) :=
    Field.keeps_build (fun _ _ => Field.Fitting.step) .usual (Field.fitting_normalizeRow h)
  have hfit : Field.Fitting (shown .usual validate rows row) :=
    (hfinished.erase "parent").compiled _ validate
  refine hfit.conforms ?_ ?_ ?_
  · intro key hkey s
    have hne : key ≠ "rules" ∧ key ≠ "parent" := by
      rcases hkey with rfl | rfl <;> decide
    rw [get?_shown hne.1 hne.2]
    exact Field.get?_build_ne_text .usual _ hkey s
  · intro s hs
    obtain ⟨flag, hflag⟩ := Field.get?_required_build .usual (normalizeRow .usual row)
    rw [get?_shown (by decide) (by decide), finished, hflag] at hs
    cases hs
  · rw [shown, Field.get?_compiled (by decide), Entries.get?_erase_self]

/-! ### The document -/

theorem Properties.conforms_formRules (properties : Properties) :
    Conforms formSchema (.object properties.formRules) .expressions := by
  rw [formRules]
  split
  · exact (Schema.conforms_noTexts (.inl rfl)).insertText (.inl rfl) _ _
  · exact Schema.conforms_noTexts (.inl rfl)

theorem Definition.conforms_version : Conforms formSchema (.string version) .version := by
  refine conforms_string (.inr (by decide)) ?_ rfl
  intro pattern hpattern
  cases hpattern
  decide

theorem Definition.conforms_usualMetadata :
    Conforms formSchema (.object usualMetadata) .metadata := by
  decide

theorem Definition.conforms_toJson {definition : Definition}
    (hmetadata : Conforms formSchema (.object definition.metadata) .metadata)
    (hrules : Conforms formSchema (.object definition.rules) .expressions)
    (hitems : ∀ item ∈ definition.items, Conforms formSchema item .field) :
    Conforms formSchema definition.toJson .form := by
  have hobject : Conforms formSchema (.object definition.properties) .object :=
    conforms_object.mpr ⟨.inr (by decide), by simp [formSchema], by simp [formSchema],
      by simp [formSchema], .inl rfl⟩
  have hfields : Conforms formSchema (.array definition.items) .fields :=
    conforms_array.mpr ⟨.inr (by decide), by simpa [formSchema] using hitems, rfl⟩
  have hbase : Conforms formSchema (.object [
      (marker, .string version),
      ("metadata", .object definition.metadata),
      ("properties", .object definition.properties),
      ("rules", .object definition.rules),
      ("items", .array definition.items)]) .form := by
    refine conforms_object.mpr ⟨.inr (by decide), ?_, ?_, by simp [formSchema], .inl rfl⟩
    · simp [formSchema, Entries.contains, marker]
    · intro key part hpart value hvalue
      simp only [formSchema, List.mem_cons, Prod.mk.injEq, List.not_mem_nil, or_false] at hpart
      rcases hpart with h | h | h | h | h | h <;> obtain ⟨rfl, rfl⟩ := h <;>
        simp [Entries.get?, lookup_cons_ite, marker] at hvalue <;> subst hvalue
      · exact conforms_version
      · exact hmetadata
      · exact hobject
      · exact hrules
      · exact hfields
  rw [toJson]
  cases definition.action with
  | none => exact hbase
  | some action =>
    rw [Option.map_some, Option.toList_some, ← Entries.insert_of_notMem]
    · refine hbase.insert ?_ (by simp [formSchema]) (by simp [formSchema])
      intro part hpart
      obtain rfl : part = .text := by simpa [formSchema] using hpart
      exact conforms_text (.inl rfl) action
    · simp [Entries.keys, marker]

/-- **A sheet of texts makes a form definition that the schema accepts**, whatever its columns, as
long as texts may stand in them. -/
theorem transform_conforms {payload : Json} {rows : List Entries}
    (hpayload : isDefinition payload = false) (hrows : rows? payload = some (rows.map .object))
    (htexts : ∀ row ∈ rows, Field.OfTexts row) (validate : Bool) (sourceId : Option String) :
    ∃ outcome, (transform .usual validate sourceId none payload).result = .ok outcome ∧
      Schema.formViolations outcome.definition = [] := by
  let values := rows.map Json.object
  let form := buildForm .usual validate sourceId none values
  obtain ⟨forest, hforest⟩ := exists_drawn .usual validate values
  refine ⟨⟨form.definition.toJson, some payload, form.failures⟩, ?_, ?_⟩
  · simp only [transform, hpayload, hrows, Bool.false_eq_true, if_false, form, values]
  · have hshown : ∀ i field, (tree .usual validate values).field? i = some field →
        Conforms formSchema (.object field) .field := by
      intro i field hfield
      rw [field?_tree] at hfield
      obtain ⟨row, hrow, rfl⟩ := Option.map_eq_some_iff.mp hfield
      refine conforms_shown (htexts row ?_) validate values
      have helig : row ∈ eligibleRows values := (List.mem_filter.mp (List.mem_of_getElem? hrow)).1
      obtain ⟨value, hvalue, hobject⟩ := List.mem_filterMap.mp (List.mem_filter.mp helig).1
      obtain ⟨row', hrow', rfl⟩ := List.mem_map.mp hvalue
      cases hobject
      exact hrow'
    have hitems : ∀ item ∈ form.definition.items, Conforms formSchema item .field := by
      have heq : form.definition.items = (tree .usual validate values).renderAll forest :=
        hforest.items_eq
      rw [heq]
      exact Tree.conforms_renderAll hshown forest
    exact Definition.conforms_toJson Definition.conforms_usualMetadata
      (Properties.conforms_formRules _) hitems

def textRows : List Entries := [
  [("Field", .string "pane"), ("Type", .string "panel"), ("Label", .string "Pane")],
  [("Field", .string "color"), ("Type", .string "drop-down"), ("Options", .string "red, green"),
    ("Mandatory", .string "x"), ("Parent", .string "pane"), ("label.visible", .string "no")],
  [("name", .string "copy"), ("label", .string "Copy"), ("rules.value", .string "=B3"),
    ("constraintMessages", .string "none"), ("constraintMessages.maximum", .string "too much")],
  [("name", .string "city"), ("enumRef", .string "/cities"), ("enum", .string "names"),
    ("rules.value", .string "=B9")],
  [("name", .string "theme"), ("fieldType", .string "property"), ("default", .string "light"),
    ("rules.properties", .string "'dark'")],
  [("name", .string "send"), ("fieldType", .string "submit"), ("events.change", .string "save()")]]

theorem transform_conforms_textRows :
    let payload := Json.object [("data", .array (textRows.map .object))]
    isDefinition payload = false ∧ rows? payload = some (textRows.map .object) ∧
    (∀ row ∈ textRows, Field.OfTexts row) ∧
    ∃ outcome, (transform .usual true (some "form.json") none payload).result = .ok outcome ∧
      Schema.formViolations outcome.definition = [] := by
  intro payload
  have htexts : ∀ row ∈ textRows, Field.OfTexts row := by decide
  exact ⟨rfl, rfl, htexts, transform_conforms rfl rfl htexts true (some "form.json")⟩

end AdaptiveForm
