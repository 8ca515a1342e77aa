import AdaptiveForm.Proofs.Form.Merging
import AdaptiveForm.Proofs.Form.Reference

/-!
# What is counted in a document

The fields of an outcome are counted in its document, by the items inside of items.  Where no field
has items of its own, the values show a forest with as many nests (`Tree.ShowsAll.countFields_eq`),
and the forest has every field once; so the count is that of the rows that become fields, however
they lie in each other.  The properties of an outcome are the distinct names of the other rows.
-/

namespace AdaptiveForm

/-! ### Counting items -/

theorem countEntries_eq (entries : Entries) :
    countEntries entries = countFields (((entries.get? "items").bind Json.asArray?).getD []) := by
  induction entries with
  | nil => rfl
  | cons entry entries ih =>
    obtain ⟨key, value⟩ := entry
    rw [countEntries, Entries.get?, lookup_cons_ite]
    by_cases hkey : key = "items"
    · rw [if_pos hkey, if_pos hkey.symm]
      cases value <;> rfl
    · rw [if_neg hkey, if_neg (Ne.symm hkey), ih]
      rfl

theorem countInside_eq (item : Json) : countInside item = countFields item.items := by
  cases item with
  | object entries => exact countEntries_eq entries
  | _ => rfl

namespace Tree

variable {tree : Tree}

mutual

theorem Shows.countInside_eq (hown : Itemless tree) : ∀ {nest : Nest} {item : Json},
    Shows tree nest item → countInside item + 1 = nest.ids.length
  | .mk id inside, item, h => by
    rw [AdaptiveForm.countInside_eq, (h.items hown).countFields_eq hown, Nest.ids,
      List.length_cons]

/-- **The count of the values is that of the nests they show.** -/
theorem ShowsAll.countFields_eq (hown : Itemless tree) : ∀ {forest : List Nest}
    {values : List Json}, ShowsAll tree forest values →
    countFields values = (Nest.idsAll forest).length
  | [], _, .nil => rfl
  | _ :: _, _, .cons h hs => by
    have hfirst := h.countInside_eq hown
    have hrest := hs.countFields_eq hown
    rw [countFields, Nest.idsAll, List.length_append]
    omega

end

end Tree

/-! ### The counts of an outcome -/

theorem Definition.get?_properties (definition : Definition) :
    definition.toJson.get? "properties" = some (.object definition.properties) := by
  simp [toJson, marker, Json.get?, Entries.get?, lookup_cons_ite]

namespace Rows

def propertyNames (settings : Settings) (rows : List Entries) : List String :=
  ((rows.map (normalizeRow settings)).filter Properties.isProperty).map Properties.nameOf

/-- The properties of a form have one entry for each of these names. -/
theorem keys_properties_buildForm (settings : Settings) (validate : Bool)
    (sourceId : Option String) (metadata : Option Entries) (rows : List Json) :
    (buildForm settings validate sourceId metadata rows).definition.properties.keys =
      (propertyNames settings (eligibleRows rows)).eraseDups := by
  have hproperties : (buildForm settings validate sourceId metadata rows).definition.properties =
      (Pass.ofRows settings rows).properties.defaults := rfl
  rw [hproperties, Pass.ofRows, Properties.properties_foldl, Properties.keys_ofRows]
  rfl

end Rows

open Rows

/-- **The counts of an outcome are those of its rows.** In usual rows without columns for items, the
fields of the document are as many as the eligible rows that are no properties, however they lie in
each other; its properties are as many as the names of the other eligible rows, each taken once; and
no more formulas are reported than there are fields. -/
theorem transform_counts_rows (validate : Bool) (sourceId : Option String)
    (metadata : Option Entries) {payload : Json} {rows : List Json}
    (hpayload : isDefinition payload = false) (hrows : rows? payload = some rows)
    (hitems : ∀ row ∈ fieldsOf .usual rows, ∀ key ∈ row.keys,
      key ≠ "items" ∧ ¬ "items.".toList <+: key.toList) :
    ∃ outcome, (transform .usual validate sourceId metadata payload).result = .ok outcome ∧
      outcome.fieldCount = (eligibleRows rows).countP
        (fun row => (normalizeRow .usual row).type? ≠ some "property") ∧
      outcome.propertyCount = (propertyNames .usual (eligibleRows rows)).eraseDups.length ∧
      outcome.failures.length ≤ outcome.fieldCount := by
  obtain ⟨outcome, values, forest, hresult, hvalues, hfailures, -, hdisplayed⟩ :=
    exists_document .usual validate sourceId metadata hpayload hrows
  have hown : (tree .usual validate rows).Itemless :=
    itemless_tree fun row hrow => get?_items_finished (hitems row hrow)
  have hfields : outcome.fieldCount = (fieldsOf .usual rows).length := by
    rw [Outcome.fieldCount, countInside_eq, Json.items, hvalues, Option.bind_some, Json.asArray?,
      Option.getD_some, hdisplayed.shows.countFields_eq hown, hdisplayed.once.length_eq,
      List.length_range]
  refine ⟨outcome, hresult, ?_, ?_, ?_⟩
  · rw [hfields, fieldsOf, fieldRows, ← List.countP_eq_length_filter]
    apply List.countP_congr
    intro row _
    simp [isField, Properties.isProperty, Properties.rowType]
  · have hdefinition :=
      Except.ok.inj (hresult.symm.trans (transform_eq_ok _ _ _ _ hpayload hrows))
    rw [hdefinition, Outcome.propertyCount, Definition.get?_properties, Option.bind_some,
      Json.asObject?]
    exact congrArg List.length (keys_properties_buildForm _ _ _ _ _)
  · rw [hfields, hfailures]
    exact List.length_filterMap_le _ _

/-- Rows of panels inside each other, of one property twice, of a field whose formula refers to no
row, and one without a name. -/
def countedRows : List Json := [
  .object [("name", .string "order"), ("fieldType", .string "panel")],
  .object [("name", .string "rate"), ("fieldType", .string "property"), ("default", .ofNat 1)],
  .object [("Field", .string "lines"), ("Type", .string "panel"), ("parent", .string "order")],
  .object [("name", .string "total"), ("rules.value", .string "=B99"), ("parent", .string "lines")],
  .object [("label", .string "note")],
  .object [("name", .string "rate"), ("Type", .string "property")]]

theorem transform_counts_rows_nested :
    let payload := Json.object [("data", .array countedRows)]
    isDefinition payload = false ∧ rows? payload = some countedRows ∧
    (∀ row ∈ fieldsOf .usual countedRows, ∀ key ∈ row.keys,
      key ≠ "items" ∧ ¬ "items.".toList <+: key.toList) ∧
    ∃ outcome, (transform .usual true none none payload).result = .ok outcome ∧
      outcome.fieldCount = 3 ∧ outcome.propertyCount = 1 ∧ outcome.failures.length ≤ 3 := by
  intro payload
  have hpayload : isDefinition payload = false := rfl
  have hrows : rows? payload = some countedRows := rfl
  have hitems : ∀ row ∈ fieldsOf .usual countedRows, ∀ key ∈ row.keys,
      key ≠ "items" ∧ ¬ "items.".toList <+: key.toList := by decide +kernel
  obtain ⟨outcome, hresult, hfields, hproperties, hfailures⟩ :=
    transform_counts_rows true none none hpayload hrows hitems
  have hthree : (eligibleRows countedRows).countP
      (fun row => (normalizeRow .usual row).type? ≠ some "property") = 3 := by decide +kernel
  have hone : (propertyNames .usual (eligibleRows countedRows)).eraseDups.length = 1 := by
    decide +kernel
  rw [hthree] at hfields
  rw [hfields] at hfailures
  exact ⟨hpayload, hrows, hitems, outcome, hresult, hfields, hproperties.trans hone, hfailures⟩

end AdaptiveForm
