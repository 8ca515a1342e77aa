import AdaptiveForm.Proofs.Field.Finishing
import AdaptiveForm.Proofs.Form.Document
import AdaptiveForm.Proofs.Form.Position

/-!
# Where references to rows lead

A formula refers to a row by its number, and a rule to a field by its path.  The trace says which
field a row has become, so the path of a row's field stands for the row.  In a form whose columns
bring no items of their own, the document is walked by the names in a path: `reference_leads_to_row`
says that the walk ends at the field of the row and nowhere else.
-/

namespace AdaptiveForm

namespace Rows

variable {settings : Settings} {validate : Bool} {rows : List Json}

/-! ### The tree of the document -/

theorem name?_tree (i : Nat) : (tree settings validate rows).name? i =
    (fieldsOf settings rows)[i]?.bind fun row => (finished settings row).name? := by
  rw [Tree.name?, field?_tree]
  cases (fieldsOf settings rows)[i]? with
  | none => rw [Option.map_none, Option.bind_none, Option.bind_none]
  | some row =>
    rw [Option.map_some, Option.bind_some, Option.bind_some, Field.name?,
      get?_shown (by decide) (by decide), Field.name?]

theorem itemless_tree
    (h : ∀ row ∈ fieldsOf settings rows, (finished settings row).get? "items" = none) :
    (tree settings validate rows).Itemless := by
  intro i field hfield
  rw [field?_tree] at hfield
  obtain ⟨row, hrow, rfl⟩ := Option.map_eq_some_iff.mp hfield
  rw [get?_shown (by decide) (by decide)]
  exact h row (List.mem_of_getElem? hrow)

theorem parentsListed_tree : (tree settings validate rows).ParentsListed := by
  intro owner i hi
  rw [children_tree, List.mem_filter, List.mem_range, decide_eq_true_eq] at hi
  rw [rewritten_tree.parent?, parent?_ofRows hi.1]
  exact hi.2

variable (validate) in
theorem path_tree (i : Nat) :
    (tree settings validate rows).path i = (Pass.ofRows settings rows).tree.path i :=
  rewritten_tree.path (fun _ field => Field.name?_compiled field) i

theorem exists_row_of_mem_path {i : Nat} {name : String}
    (h : name ∈ (Pass.ofRows settings rows).tree.path i) :
    ∃ row ∈ fieldsOf settings rows, (finished settings row).name? = some name := by
  rw [← path_tree true] at h
  obtain ⟨j, hj⟩ := Tree.exists_name?_of_mem_path h
  rw [name?_tree] at hj
  obtain ⟨row, hrow, hname⟩ := Option.bind_eq_some_iff.mp hj
  exact ⟨row, List.mem_of_getElem? hrow, hname⟩

/-! ### The trace -/

/-- What is picked from a list is found by the number of those picked before it. -/
theorem getElem?_filter {α : Type} {p : α → Bool} {l : List α} {k : Nat} {a : α}
    (hk : l[k]? = some a) (ha : p a = true) :
    (l.filter p)[((l.take k).filter p).length]? = some a := by
  obtain ⟨hlt, rfl⟩ := List.getElem?_eq_some_iff.mp hk
  have hsplit : l = l.take k ++ l[k] :: l.drop (k + 1) := by
    rw [List.getElem_cons_drop, List.take_append_drop]
  have hfilter : l.filter p =
      (l.take k).filter p ++ l[k] :: (l.drop (k + 1)).filter p := by
    conv_lhs => rw [hsplit]
    rw [List.filter_append, List.filter_cons_of_pos ha]
  rw [hfilter, List.getElem?_append_right (Nat.le_refl _), Nat.sub_self]
  rfl

/-- The field with the given number is that of the eligible row with the given row number: rows are
numbered from the first one below the header, fields as they come. -/
structure FieldOfRow (settings : Settings) (rows : List Json) (r id : Nat) (row : Entries) :
    Prop where
  firstRow_le : Trace.firstRow ≤ r
  eligible : (eligibleRows rows)[r - Trace.firstRow]? = some row
  number : id = (fieldRows settings ((eligibleRows rows).take (r - Trace.firstRow))).length
  field : (fieldsOf settings rows)[id]? = some row

theorem exists_fieldOfRow {r id : Nat}
    (h : (Pass.ofRows settings rows).trace.get? r = some (.field id)) :
    ∃ row, FieldOfRow settings rows r id row := by
  rw [(takes_ofRows settings rows).trace] at h
  obtain ⟨hle, hbuilt⟩ := Option.ite_none_right_eq_some.mp h
  rw [built?] at hbuilt
  obtain ⟨row, hrow, hfield⟩ := Option.map_eq_some_iff.mp hbuilt
  by_cases hp : isField settings row = true
  · rw [if_pos hp] at hfield
    cases hfield
    exact ⟨row, hle, hrow, rfl, getElem?_filter hrow hp⟩
  · rw [if_neg hp] at hfield
    cases hfield

/-! ### Columns -/

/-- Usual rows without columns for items are finished as fields without items. -/
theorem get?_items_finished {row : Entries}
    (h : ∀ key ∈ row.keys, key ≠ "items" ∧ ¬ "items.".toList <+: key.toList) :
    (finished .usual row).get? "items" = none := by
  have hrow : Field.Lacks "items" row := by
    intro key hkey
    obtain ⟨hne, hdot⟩ := h key hkey
    exact Field.head?_split_ne hne hdot
  have hmessage : Field.Lacks "items" (Entries.insert (Field.stripBlanks row) "constraintMessages"
      (.object [("required", .string Settings.usual.requiredMessage)])) :=
    (hrow.filter _).insert (by decide) _
  have hnormal : Field.Lacks "items" (normalizeRow .usual row) :=
    hmessage.normalizeNames (by decide)
  exact (hnormal.build (by decide) .usual).get? (by decide)

/-! ### Paths of rows -/

theorem paths_of_field {r id : Nat}
    (h : (Pass.ofRows settings rows).trace.get? r = some (.field id)) {names : List String}
    (hpath : (Pass.ofRows settings rows).tree.path id = names) :
    paths settings rows r = if names = [] then none else some (formPath names) := by
  rw [paths, Trace.paths, h]
  dsimp only
  rw [hpath]
  cases names with
  | nil => rfl
  | cons first rest => rw [if_neg (List.cons_ne_nil first rest)]

/-- A row whose field has no name has no path, and any other one has. -/
theorem paths_eq_none_iff {r id : Nat} {row : Entries}
    (h : (Pass.ofRows settings rows).trace.get? r = some (.field id))
    (hrow : (fieldsOf settings rows)[id]? = some row) :
    paths settings rows r = none ↔ (finished settings row).name? = none := by
  have hname : (tree settings true rows).name? id = (finished settings row).name? := by
    rw [name?_tree, hrow, Option.bind_some]
  rw [paths_of_field h rfl, ← hname, ← Tree.path_eq_nil_iff, path_tree]
  simp

theorem exists_dotted {names : List String} (hne : names ≠ [])
    (hdots : ∀ name ∈ names, '.' ∉ name.toList) :
    ∃ dotted, formPath names = "$form." ++ dotted ∧ Text.split '.' dotted = names :=
  ⟨String.intercalate "." names, rfl, Text.split_intercalate hne hdots⟩

theorem leads_path {forest : List Nest} {values : List Json} {id : Nat}
    (hdrawn : (tree settings validate rows).Drawn forest)
    (hshows : (tree settings validate rows).ShowsAll forest values)
    (hown : ∀ row ∈ fieldsOf settings rows, (finished settings row).get? "items" = none)
    (hpaths : ∀ i < (fieldsOf settings rows).length, ∀ j < (fieldsOf settings rows).length,
      (Pass.ofRows settings rows).tree.path i ≠ [] →
      (Pass.ofRows settings rows).tree.path j = (Pass.ofRows settings rows).tree.path i → j = i)
    (hne : (Pass.ofRows settings rows).tree.path id ≠ []) :
    ∃ pos above nest item, Nest.At forest pos above nest ∧ nest.id = id ∧
      (tree settings validate rows).Shows nest item ∧
      ∀ pos' item', Leads values ((Pass.ofRows settings rows).tree.path id) pos' item' ↔
        pos' = pos ∧ item' = item := by
  have hid : id < (fieldsOf settings rows).length := by
    rw [← size_ofRows]
    exact Tree.lt_size_of_path hne
  have hunique : ∀ j < (tree settings validate rows).size,
      (tree settings validate rows).path j = (tree settings validate rows).path id → j = id := by
    intro j hj hpath
    rw [size_tree] at hj
    rw [path_tree, path_tree] at hpath
    exact hpaths id hid j hj hne hpath
  rw [← path_tree validate] at hne ⊢
  exact hdrawn.leads_path parentsListed_tree (itemless_tree hown) hshows hne hunique

end Rows

open Rows

/-- **A reference to a row leads to the field of that row.** In usual rows without columns for
items, if no name has a dot in it and no two fields have one path, the path of a row's field leads
through the document to one item, which is that of the field.  A row has a path as soon as its
field has a name. -/
theorem reference_leads_to_row (validate : Bool) (sourceId : Option String)
    (metadata : Option Entries) {payload : Json} {rows : List Json}
    (hpayload : isDefinition payload = false) (hrows : rows? payload = some rows)
    (hitems : ∀ row ∈ fieldsOf .usual rows, ∀ key ∈ row.keys,
      key ≠ "items" ∧ ¬ "items.".toList <+: key.toList)
    (hnames : ∀ row ∈ fieldsOf .usual rows, ∀ name ∈ (finished .usual row).name?,
      '.' ∉ name.toList)
    (hpaths : ∀ i < (fieldsOf .usual rows).length, ∀ j < (fieldsOf .usual rows).length,
      (Pass.ofRows .usual rows).tree.path i ≠ [] →
      (Pass.ofRows .usual rows).tree.path j = (Pass.ofRows .usual rows).tree.path i → j = i) :
    ∃ outcome values tree forest,
      (transform .usual validate sourceId metadata payload).result = .ok outcome ∧
      outcome.definition.get? "items" = some (.array values) ∧
      Displayed .usual (fieldsOf .usual rows) tree forest values ∧
      ∀ r id, (Pass.ofRows .usual rows).trace.get? r = some (.field id) →
        ∃ row, FieldOfRow .usual rows r id row ∧
          (paths .usual rows r = none ↔ (finished .usual row).name? = none) ∧
          ∀ path, paths .usual rows r = some path →
            ∃ dotted pos above nest item, path = "$form." ++ dotted ∧
              Nest.At forest pos above nest ∧ nest.id = id ∧ tree.Shows nest item ∧
              ∀ pos' item', Leads values (Text.split '.' dotted) pos' item' ↔
                pos' = pos ∧ item' = item := by
  obtain ⟨outcome, values, forest, hresult, hvalues, -, hdrawn, hdisplayed⟩ :=
    exists_document .usual validate sourceId metadata hpayload hrows
  refine ⟨outcome, values, _, forest, hresult, hvalues, hdisplayed, ?_⟩
  intro r id hfield
  obtain ⟨row, hrow⟩ := exists_fieldOfRow hfield
  refine ⟨row, hrow, paths_eq_none_iff hfield hrow.field, ?_⟩
  intro path hpath
  rw [paths_of_field hfield rfl] at hpath
  split_ifs at hpath with hne
  cases hpath
  have hdots : ∀ name ∈ (Pass.ofRows .usual rows).tree.path id, '.' ∉ name.toList := by
    intro name hname
    obtain ⟨row', hrow', hname'⟩ := exists_row_of_mem_path hname
    exact hnames row' hrow' name hname'
  have hown : ∀ row ∈ fieldsOf .usual rows, (finished .usual row).get? "items" = none :=
    fun row hrow => get?_items_finished (hitems row hrow)
  obtain ⟨dotted, htext, hsplit⟩ := exists_dotted hne hdots
  obtain ⟨pos, above, nest, item, hat, hid, hshows, hleads⟩ :=
    leads_path hdrawn hdisplayed.shows hown hpaths hne
  rw [← hsplit] at hleads
  exact ⟨dotted, pos, above, nest, item, htext, hat, hid, hshows, hleads⟩

/-- Rows of a panel with a name, one without inside it, a property, a row that is passed over, and
two fields of one name in different places. -/
def orderRows : List Json := [
  .object [("name", .string "order"), ("fieldType", .string "panel"), ("type", .string "object")],
  .object [("name", .string "box"), ("fieldType", .string "panel"), ("parent", .string "order")],
  .object [("name", .string "rate"), ("fieldType", .string "property")],
  .object [("label", .string "note")],
  .object [("Field", .string "price"), ("Parent", .string "box")],
  .object [("name", .string "price")]]

theorem reference_leads_to_row_price :
    let payload := Json.object [("data", .array orderRows)]
    (Pass.ofRows .usual orderRows).trace.get? 5 = some (.field 2) ∧
    paths .usual orderRows 5 = some "$form.order.price" ∧
    ∃ outcome values tree forest row,
      (transform .usual false none none payload).result = .ok outcome ∧
      outcome.definition.get? "items" = some (.array values) ∧
      Displayed .usual (fieldsOf .usual orderRows) tree forest values ∧
      FieldOfRow .usual orderRows 5 2 row ∧
      ∃ dotted pos above nest item, "$form.order.price" = "$form." ++ dotted ∧
        Nest.At forest pos above nest ∧ nest.id = 2 ∧ tree.Shows nest item ∧
        ∀ pos' item', Leads values (Text.split '.' dotted) pos' item' ↔
          pos' = pos ∧ item' = item := by
  intro payload
  have htrace : (Pass.ofRows .usual orderRows).trace.get? 5 = some (.field 2) := by
    decide +kernel
  have hpath : paths .usual orderRows 5 = some "$form.order.price" := by decide +kernel
  have hpayload : isDefinition payload = false := rfl
  have hrows : rows? payload = some orderRows := rfl
  obtain ⟨outcome, values, tree, forest, hresult, hvalues, hdisplayed, hrow⟩ :=
    reference_leads_to_row false none none hpayload hrows
      (by decide +kernel) (by decide +kernel) (by decide +kernel)
  obtain ⟨row, hfield, -, hleads⟩ := hrow 5 2 htrace
  exact ⟨htrace, hpath, outcome, values, tree, forest, row, hresult, hvalues, hdisplayed, hfield,
    hleads _ hpath⟩

end AdaptiveForm
