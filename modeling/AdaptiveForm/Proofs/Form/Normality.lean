import AdaptiveForm.Proofs.Field.Loading
import AdaptiveForm.Proofs.Form.Document
import AdaptiveForm.Proofs.Form.Position
import Mathlib.Tactic.SplitIfs

/-!
# Fields in normal form

Whatever columns a row has, its field comes into the document in one form: `NormalForm` says what
holds of its attributes.  Each of these facts is made by one step, and the later ones keep it:
finishing an expanded field sets a few attributes without dots only, attaching takes the parent
away, compiling replaces the value among the rules, and nesting puts items into `items`.  So the
form is that of the field that is finished (`normalForm_build`), and what is shown of it has it, too
(`NormalForm.of_agree`).

`Occurs` says that an item lies somewhere among items, and at the position of each nest of the
document lies its field (`ShowsAll.exists_occurs`).
-/

namespace AdaptiveForm

open AdaptiveForm.Field

/-- The attributes of a field in normal form, made from the normalized and expanded row. -/
structure NormalForm (row entries : Entries) : Prop where
  undotted : ∀ key ∈ entries.keys, isDotted key = false
  parentless : "parent" ∉ entries.keys
  required : ∃ flag, entries.get? "required" = some (.bool flag) ∧
    (flag = true ↔ row.get? "required" = some (.string "x") ∨
      row.get? "required" = some (.string "true"))
  lists : ∀ key, key = "enum" ∨ key = "enumNames" → ∀ s, entries.get? key ≠ some (.string s)
  nameless : entries.get? "fieldType" = some (.string panelType) → entries.get? "type" = none →
    entries.get? "name" = some .null
  loads : ∀ reference, entries.get? "enumRef" = some reference → ∃ events : Entries,
    entries.get? "events" = some (.object events) ∧ events.get? "initialize" = some (.string
      (requestExpression reference.plainText (optionsLoaded ((Field.name? row).getD ""))))

namespace Field

variable {field : Field}

/-! ### Finished fields -/

def Undotted (field : Field) : Prop :=
  ∀ key ∈ Entries.keys field, isDotted key = false

theorem Undotted.insert (h : Undotted field) {key : String} (hkey : isDotted key = false)
    (value : Json) : Undotted (Entries.insert field key value) := by
  intro k hk
  rcases Entries.mem_keys_insert field key value hk with rfl | hk
  · exact hkey
  · exact h k hk

theorem Undotted.splitValues (h : Undotted field) {key : String} (hkey : isDotted key = false) :
    Undotted (field.splitValues key) := by
  rw [Field.splitValues]
  split
  · exact h.insert hkey _
  · exact h

theorem Undotted.applyOptionsReference (h : Undotted field) :
    Undotted field.applyOptionsReference := by
  have hset : ∀ {field : Field}, Undotted field → ∀ event expression,
      Undotted (field.setEvent event expression) := fun h _ _ => h.insert (by decide) _
  rw [Field.applyOptionsReference]
  split
  · exact h
  · dsimp only
    split
    · exact hset h _ _
    · exact hset (hset h _ _) _ _

theorem undotted_listed (settings : Settings) (field : Field) : Undotted (field.listed settings) :=
  have hexpand : Undotted
      ((field.applySubmit settings.submission).mapType settings.mappings).expand :=
    fun _ => isDotted_of_mem_keys_expand
  (hexpand.splitValues (by decide)).splitValues (by decide)

theorem undotted_build (settings : Settings) (field : Field) : Undotted (field.build settings) := by
  have hrequired : Undotted (field.listed settings).applyOptionsReference.coerceRequired :=
    (undotted_listed settings field).applyOptionsReference.insert (by decide) _
  have hbuild : field.build settings =
      (field.listed settings).applyOptionsReference.coerceRequired.clearPanelName := rfl
  rw [hbuild, clearPanelName]
  split_ifs
  · exact hrequired.insert (by decide) _
  · exact hrequired

theorem isRequired_iff : field.isRequired = true ↔
    field.get? "required" = some (.string "x") ∨ field.get? "required" = some (.string "true") := by
  rw [isRequired]
  split
  · rename_i mark hmark
    simp [hmark]
  · rename_i hother
    refine iff_of_false (by simp) ?_
    rintro (h | h) <;> exact hother _ h

theorem get?_required_build_iff (settings : Settings) (field : Field) :
    ∃ flag, (field.build settings).get? "required" = some (.bool flag) ∧
      (flag = true ↔ field.expand.get? "required" = some (.string "x") ∨
        field.expand.get? "required" = some (.string "true")) := by
  have hbuild : (field.build settings).get? "required" = some
      (.bool (field.listed settings).applyOptionsReference.isRequired) := by
    rw [build, get?_clearPanelName (by decide)]
    exact Entries.get?_insert_self _ _ _
  refine ⟨_, hbuild, ?_⟩
  rw [isRequired_iff, get?_applyOptionsReference (by decide),
    get?_listed settings field (by decide) (by decide)]

theorem get?_name_clearPanelName (field : Field)
    (htype : field.clearPanelName.get? "fieldType" = some (.string panelType))
    (hown : field.clearPanelName.get? "type" = none) :
    field.clearPanelName.get? "name" = some .null := by
  rw [get?_clearPanelName (by decide)] at htype hown
  rw [clearPanelName, if_pos]
  · exact Entries.get?_insert_self _ _ _
  · rw [type?_eq_some_iff, Entries.contains_eq_isSome, hown]
    exact ⟨htype, rfl⟩

/-- **A finished field without its parent is in normal form.** -/
theorem normalForm_build (settings : Settings) (field : Field) :
    NormalForm field.expand (Entries.erase (field.build settings) "parent") where
  undotted key hkey := by
    rw [Entries.keys_erase, List.mem_filter] at hkey
    exact undotted_build settings field key hkey.1
  parentless h := by
    rw [Entries.keys_erase, List.mem_filter] at h
    simp at h
  required := by
    rw [Entries.get?_erase_of_ne _ (by decide)]
    exact get?_required_build_iff settings field
  lists key hkey s := by
    have hne : key ≠ "parent" := by rcases hkey with rfl | rfl <;> decide
    rw [Entries.get?_erase_of_ne _ hne]
    exact get?_build_ne_text settings field hkey s
  nameless htype hown := by
    rw [Entries.get?_erase_of_ne _ (by decide)] at htype hown ⊢
    exact get?_name_clearPanelName _ htype hown
  loads reference h := by
    rw [Entries.get?_erase_of_ne _ (by decide), build, get?_clearPanelName (by decide),
      get?_coerceRequired (by decide), get?_applyOptionsReference (by decide)] at h
    have hrequest := getPath?_request_build settings
      ((get?_enumRef_listed settings field).symm.trans h)
    rw [getPath?_cons _ _ (List.cons_ne_nil _ _)] at hrequest
    rw [Entries.get?_erase_of_ne _ (by decide)]
    exact get?_entriesAt hrequest

end Field

/-! ### Shown fields -/

variable {row entries entries' : Entries}

/-- The normal form does not depend on the rules and the items. -/
theorem NormalForm.of_agree (h : NormalForm row entries)
    (hkeys : ∀ key ∈ entries'.keys, key ∈ entries.keys ∨ key = "items")
    (hget : ∀ key, key ≠ "rules" → key ≠ "items" → entries'.get? key = entries.get? key) :
    NormalForm row entries' where
  undotted key hkey := by
    rcases hkeys key hkey with hold | rfl
    · exact h.undotted key hold
    · decide
  parentless hparent := by
    rcases hkeys "parent" hparent with hold | heq
    · exact h.parentless hold
    · exact absurd heq (by decide)
  required := by
    rw [hget _ (by decide) (by decide)]
    exact h.required
  lists key hkey s := by
    have hne : key ≠ "rules" ∧ key ≠ "items" := by rcases hkey with rfl | rfl <;> decide
    rw [hget key hne.1 hne.2]
    exact h.lists key hkey s
  nameless htype hown := by
    rw [hget _ (by decide) (by decide)] at htype hown ⊢
    exact h.nameless htype hown
  loads reference href := by
    rw [hget _ (by decide) (by decide)] at href ⊢
    exact h.loads reference href

theorem NormalForm.of_isFieldOf {settings : Settings} {source : Entries} {field : Field}
    (h : Rows.IsFieldOf settings source field) :
    NormalForm (normalizeRow settings source).expand field := by
  have hfinished := normalForm_build settings (normalizeRow settings source)
  rcases h with rfl | ⟨rule, hreplaced⟩
  · exact hfinished
  · refine hfinished.of_agree (fun key hkey => .inl (hreplaced.keys ▸ hkey)) ?_
    exact fun key hrules _ => Entries.get?_eq_of_erase_eq hreplaced.others hrules

theorem NormalForm.of_extends {field : Field} {values : List Json} (h : NormalForm row field)
    (he : Tree.Extends field values entries) : NormalForm row entries := by
  refine h.of_agree ?_ fun key _ hitems => Entries.get?_eq_of_erase_eq he.others hitems
  intro key hkey
  by_cases hitems : key = "items"
  · exact .inr hitems
  · left
    rw [Entries.mem_keys_iff] at hkey ⊢
    rwa [← Entries.get?_eq_of_erase_eq he.others hitems]

/-! ### Where fields lie in a document -/

inductive Occurs : List Json → Json → Prop
  | here {items : List Json} {item : Json} (h : item ∈ items) : Occurs items item
  | inside {items : List Json} {item target : Json} (h : item ∈ items)
      (hs : Occurs item.items target) : Occurs items target

theorem Occurs.mono {items items' : List Json} {item : Json} (h : Occurs items item)
    (hsub : ∀ item ∈ items, item ∈ items') : Occurs items' item := by
  cases h with
  | here h => exact .here (hsub _ h)
  | inside h hs => exact .inside (hsub _ h) hs

namespace Tree

variable {tree : Tree} {forest : List Nest} {values : List Json} {nest : Nest}

theorem Extends.mem_items {field : Field} {entries : Entries} (h : Extends field values entries)
    {item : Json} (hitem : item ∈ values) : item ∈ (Json.object entries).items := by
  have hitems : (Json.object entries).items = ownItems field ++ values := by
    rw [Json.items, Json.get?, h.items (List.ne_nil_of_mem hitem)]
    rfl
  rw [hitems]
  exact List.mem_append_right _ hitem

/-- **The field of each nest lies in the document.** -/
theorem ShowsAll.exists_occurs {pos above : List Nat} (hs : ShowsAll tree forest values)
    (hat : Nest.At forest pos above nest) : ∃ item, Shows tree nest item ∧ Occurs values item := by
  induction hat generalizing values with
  | here hnest =>
    obtain ⟨item, hitem, hshows⟩ := hs.exists_item hnest
    exact ⟨item, hshows, .here (List.mem_of_getElem? hitem)⟩
  | inside hnest hat ih =>
    obtain ⟨around, hitem, hshows⟩ := hs.exists_item hnest
    cases hshows with
    | mk hf hv he =>
      obtain ⟨item, htarget, hoccurs⟩ := ih hv
      refine ⟨item, htarget, .inside (List.mem_of_getElem? hitem) (hoccurs.mono ?_)⟩
      exact fun _ => he.mem_items

end Tree

open Rows

/-- **Every field of a document is in normal form.** A payload with rows is transformed, whatever
the configuration is; and the field of every row that is attached lies in the document, at the
position of its number, in the normal form of that row. -/
theorem transform_normalForm (settings : Settings) (validate : Bool) (sourceId : Option String)
    (metadata : Option Entries) {payload : Json} {rows : List Json}
    (hpayload : isDefinition payload = false) (hrows : rows? payload = some rows) :
    ∃ outcome values forest,
      (transform settings validate sourceId metadata payload).result = .ok outcome ∧
      outcome.definition.get? "items" = some (.array values) ∧
      Displayed settings (fieldsOf settings rows) (tree settings validate rows) forest values ∧
      ∀ i row, (fieldsOf settings rows)[i]? = some row → ∃ pos above nest entries,
        Nest.At forest pos above nest ∧ nest.id = i ∧
        (tree settings validate rows).Shows nest (.object entries) ∧
        Occurs values (.object entries) ∧
        NormalForm (normalizeRow settings row).expand entries := by
  obtain ⟨outcome, values, forest, hresult, hitems, -, -, hdisplayed⟩ :=
    exists_document settings validate sourceId metadata hpayload hrows
  refine ⟨outcome, values, forest, hresult, hitems, hdisplayed, ?_⟩
  intro i row hrow
  have hlt : i < (fieldsOf settings rows).length := (List.getElem?_eq_some_iff.mp hrow).1
  have hmem : i ∈ Nest.idsAll forest :=
    hdisplayed.once.mem_iff.mpr (List.mem_range.mpr hlt)
  obtain ⟨pos, above, nest, hat, rfl⟩ := Nest.exists_at hmem
  obtain ⟨item, hshows, hoccurs⟩ := hdisplayed.shows.exists_occurs hat
  obtain ⟨field, hfield, hsource⟩ := hdisplayed.fields _ _ hrow
  cases hshows with
  | @mk id inside found values' entries hf hv he =>
    cases hf.symm.trans hfield
    exact ⟨pos, above, _, entries, hat, rfl, .mk hf hv he, hoccurs,
      (NormalForm.of_isFieldOf hsource).of_extends he⟩

def cityRow : Entries := [
  ("name", .string "city"), ("parent", .string "home"), ("required", .string "x"),
  ("label.value", .string "City"), ("rules.value", .string "=A2"),
  ("enumRef", .string "cities.json"), ("enum", .string "a, b")]

theorem transform_normalForm_city :
    let rows := [Json.object [("name", .string "home"), ("fieldType", .string "panel")],
      Json.object cityRow]
    let payload := Json.object [("data", .array rows)]
    isDefinition payload = false ∧ rows? payload = some rows ∧
    ∃ (outcome : Outcome) (values : List Json) (entries : Entries),
      (transform .usual true none none payload).result = .ok outcome ∧
      outcome.definition.get? "items" = some (.array values) ∧ Occurs values (.object entries) ∧
      "label.value" ∉ entries.keys ∧ "parent" ∉ entries.keys ∧
      entries.get? "required" = some (.bool true) := by
  intro rows payload
  have hpayload : isDefinition payload = false := rfl
  have hrows : rows? payload = some rows := rfl
  obtain ⟨outcome, values, forest, hresult, hitems, -, hfields⟩ :=
    transform_normalForm .usual true none none hpayload hrows
  have hrow : (fieldsOf .usual rows)[1]? = some cityRow := rfl
  obtain ⟨pos, above, nest, entries, -, -, -, hoccurs, hnormal⟩ := hfields 1 cityRow hrow
  refine ⟨hpayload, hrows, outcome, values, entries, hresult, hitems, hoccurs, ?_,
    hnormal.parentless, ?_⟩
  · intro hmem
    exact absurd (hnormal.undotted _ hmem) (by decide)
  · obtain ⟨flag, hflag, hiff⟩ := hnormal.required
    have hmark : (normalizeRow .usual cityRow).expand.get? "required" = some (.string "x") := by
      rfl
    rw [hflag, hiff.mpr (.inl hmark)]

end AdaptiveForm
