import AdaptiveForm.Proofs.Field.Order
import AdaptiveForm.Proofs.Form.Document
import AdaptiveForm.Proofs.Form.Rowwise

/-!
# Payloads whose columns stand in another order

Two payloads that differ in the order of their columns are taken row by row side by side.  The two
passes stay alike (`Pass.Alike`): they have the same panels, properties, trace and queue, and trees
of the same shape with alike fields.  A formula is read and compiled alike on both sides, as paths
are made of names, and the same forest is drawn from both trees; so the documents are alike and the
failures the same.
-/

namespace AdaptiveForm

open Entries (Agree)

/-! ### Fields -/

namespace Field

variable {field field' : Field}

theorem name?_eq (h : Agree Json.Alike field field') : field'.name? = field.name? :=
  h.bind_get? (fun _ _ hv => hv.key?) "name"

theorem valueRule?_eq (h : Agree Json.Alike field field') :
    field'.valueRule? = field.valueRule? := by
  have hvalue : ∀ rules rules' : Json, rules.Alike rules' →
      (rules'.get? "value").bind Json.asString? = (rules.get? "value").bind Json.asString? := by
    intro rules rules' hrules
    have hfound := hrules.get? "value"
    generalize rules.get? "value" = found, rules'.get? "value" = found' at hfound
    cases hfound with
    | none => rfl
    | some hv => exact hv.asString?
  rw [valueRule?, valueRule?, Option.bind_assoc, Option.bind_assoc]
  exact h.bind_get? hvalue "rules"

theorem formula?_eq (h : Agree Json.Alike field field') : field'.formula? = field.formula? := by
  rw [formula?, formula?, valueRule?_eq h]

theorem agree_setValueRule (h : Agree Json.Alike field field') (rule : String) :
    Agree Json.Alike (field.setValueRule rule) (field'.setValueRule rule) := by
  have hfound := h.get? "rules"
  unfold setValueRule
  generalize field.get? "rules" = found, field'.get? "rules" = found' at hfound
  cases hfound with
  | none => exact h
  | @some rules rules' hv =>
    cases hv with
    | same =>
      cases rules with
      | object rules => exact h.insert "rules" (.same _)
      | _ => exact h
    | array => exact h
    | object hkeys hvalues =>
      have hset := Agree.insert ⟨hkeys, hvalues⟩ "value" (.same (.string rule))
      exact h.insert "rules" (Json.alike_object.mpr hset)

theorem agree_compiled (h : Agree Json.Alike field field') (paths : Rule.RowPaths)
    (validate : Bool) :
    Agree Json.Alike (field.compiled paths validate) (field'.compiled paths validate) := by
  rw [compiled, compiled, formula?_eq h]
  split
  · exact h
  · split
    · exact agree_setValueRule h _
    · exact h

theorem failure?_eq (h : Agree Json.Alike field field') (paths : Rule.RowPaths)
    (validate : Bool) : field'.failure? paths validate = field.failure? paths validate := by
  rw [failure?, failure?, formula?_eq h]

end Field

/-! ### Trees -/

namespace Tree

/-- The trees have the same lists and alike fields. -/
structure Alike (tree tree' : Tree) : Prop where
  size : tree'.size = tree.size
  children : ∀ container, tree'.children container = tree.children container
  parents : ∀ i, tree'.parent? i = tree.parent? i
  fields : ∀ i, Option.Rel (Agree Json.Alike) (tree.field? i) (tree'.field? i)

variable {tree tree' : Tree}

theorem Alike.bind_field? {α : Type} (h : Alike tree tree') {f : Field → Option α}
    (hf : ∀ field field', Agree Json.Alike field field' → f field' = f field) (i : Nat) :
    (tree'.field? i).bind f = (tree.field? i).bind f := by
  have hfound := h.fields i
  generalize tree.field? i = found, tree'.field? i = found' at hfound
  cases hfound with
  | none => rfl
  | some hfield => exact hf _ _ hfield

theorem Alike.paths (h : Alike tree tree') (trace : Trace) :
    trace.paths tree' = trace.paths tree :=
  paths_congr (path_congr h.parents (h.bind_field? fun _ _ => Field.name?_eq)) trace

theorem Alike.push (h : Alike tree tree') (container : Container) {field field' : Field}
    (hfield : Agree Json.Alike field field') :
    Alike (tree.push container field) (tree'.push container field') := by
  have howner : tree'.owner? container = tree.owner? container := by
    cases container with
    | root => rfl
    | panel id => rw [owner?, owner?, h.size]
  refine ⟨?_, ?_, ?_, ?_⟩
  · rw [size_push, size_push, h.size]
  · intro other
    rw [children_push, children_push, h.children, howner, h.size]
  · intro i
    rw [parent?_push, parent?_push, h.parents, howner, h.size]
  · intro i
    rw [field?_push, field?_push, h.size]
    split_ifs
    · exact .some hfield
    · exact h.fields i

theorem Alike.rewritten {f : Nat → Field → Field} {new new' : Tree} (h : Alike tree tree')
    (hnew : Rewritten f tree new) (hnew' : Rewritten f tree' new')
    (hf : ∀ i field field', Agree Json.Alike field field' →
      Agree Json.Alike (f i field) (f i field')) : Alike new new' where
  size := by rw [hnew'.size, hnew.size, h.size]
  children container := by rw [hnew'.children, hnew.children, h.children]
  parents i := by rw [hnew'.parent?, hnew.parent?, h.parents]
  fields i := by
    rw [hnew'.field?, hnew.field?]
    have hfound := h.fields i
    generalize tree.field? i = found, tree'.field? i = found' at hfound
    cases hfound with
    | none => exact .none
    | some hfield => exact .some (hf i _ _ hfield)

/-- **Alike trees are compiled to alike trees**, and the same is reported. -/
theorem Alike.compileAll (h : Alike tree tree') (validate : Bool) (queue : List Nat)
    (trace : Trace) :
    Alike (compileAll validate tree queue trace).1 (compileAll validate tree' queue trace).1 ∧
      (compileAll validate tree' queue trace).2 = (compileAll validate tree queue trace).2 := by
  have hpaths := h.paths trace
  refine ⟨?_, ?_⟩
  · have hnew := rewritten_compileAll validate tree queue trace
    have hnew' := rewritten_compileAll validate tree' queue trace
    rw [hpaths] at hnew'
    refine h.rewritten hnew hnew' ?_
    intro i field field' hfield
    split_ifs
    · exact Field.agree_compiled hfield _ validate
    · exact hfield
  · rw [failures_compileAll, failures_compileAll]
    apply List.filterMap_congr
    intro id _
    rw [failure?, failure?, hpaths]
    exact h.bind_field? (fun _ _ hfield => Field.failure?_eq hfield _ validate) id

/-! ### Fields inside fields -/

theorem agree_withItems {field field' : Field} (h : Agree Json.Alike field field')
    {values values' : List Json} (hvalues : List.Forall₂ Json.Alike values values') :
    Agree Json.Alike (withItems field values) (withItems field' values') := by
  have hset : ∀ {values values' : List Json}, List.Forall₂ Json.Alike values values' →
      Agree Json.Alike (Entries.insert field "items" (.array values))
        (Entries.insert field' "items" (.array values')) := by
    intro values values' hvalues
    exact h.insert "items" (Json.alike_array.mpr hvalues)
  have hfound := h.get? "items"
  unfold withItems
  generalize field.get? "items" = found, field'.get? "items" = found' at hfound
  cases hfound with
  | none => exact hset hvalues
  | @some own own' hv =>
    cases own with
    | array items =>
      obtain ⟨items', rfl⟩ : ∃ items', own' = .array items' := by
        cases hv <;> exact ⟨_, rfl⟩
      exact hset (List.rel_append (Json.alike_array.mp hv) hvalues)
    | _ => cases hv <;> exact hset hvalues

mutual

/-- **The same nest is rendered alike from alike trees.** -/
theorem Alike.render (h : Alike tree tree') : ∀ nest : Nest,
    (tree.render nest).Alike (tree'.render nest)
  | .mk id inside => by
    have hfield : Agree Json.Alike ((tree.field? id).getD []) ((tree'.field? id).getD []) := by
      have hfound := h.fields id
      generalize tree.field? id = found, tree'.field? id = found' at hfound
      cases hfound with
      | none => exact .refl .same []
      | some hfield => exact hfield
    rw [Tree.render, Tree.render]
    refine Json.alike_object.mpr ?_
    split_ifs
    · exact hfield
    · exact agree_withItems hfield (h.renderAll inside)

theorem Alike.renderAll (h : Alike tree tree') : ∀ nests : List Nest,
    List.Forall₂ Json.Alike (tree.renderAll nests) (tree'.renderAll nests)
  | [] => by
    rw [Tree.renderAll, Tree.renderAll]
    exact .nil
  | nest :: nests => by
    rw [Tree.renderAll, Tree.renderAll]
    exact .cons (h.render nest) (h.renderAll nests)

end

theorem Alike.items (h : Alike tree tree') {forest : List Nest} (hforest : Drawn tree forest) :
    List.Forall₂ Json.Alike tree.items tree'.items := by
  rw [hforest.items_eq, (hforest.congr h.size h.children).items_eq]
  exact h.renderAll forest

end Tree

/-! ### Passes -/

structure Pass.Alike (pass pass' : Pass) : Prop where
  tree : pass.tree.Alike pass'.tree
  panels : pass'.panels = pass.panels
  properties : pass'.properties = pass.properties
  trace : pass'.trace = pass.trace
  queue : pass'.queue = pass.queue
  row : pass'.row = pass.row

namespace Pass

variable {pass pass' : Pass} {row row' : Field}

theorem Alike.refl (pass : Pass) : Alike pass pass where
  tree := by
    refine ⟨rfl, fun _ => rfl, fun _ => rfl, fun i => ?_⟩
    cases pass.tree.field? i with
    | none => exact .none
    | some field => exact .some (.refl .same field)
  panels := rfl
  properties := rfl
  trace := rfl
  queue := rfl
  row := rfl

theorem nameOf_eq (h : Agree Eq row row') : Properties.nameOf row' = Properties.nameOf row := by
  rw [Properties.nameOf, Properties.nameOf, Field.name?, Field.name?, h.get?_eq]

theorem record_eq (h : Agree Eq row row') (properties : Properties) :
    properties.record row' = properties.record row := by
  have hfragment : Properties.fragment? row' = Properties.fragment? row := by
    rw [Properties.fragment?, Properties.fragment?, h.get?_eq, nameOf_eq h]
  rw [Properties.record, Properties.record, nameOf_eq h, hfragment, h.get?_eq]

theorem Alike.addProperty (h : Alike pass pass') (hrow : Agree Eq row row') :
    Alike (pass.addProperty row) (pass'.addProperty row') where
  tree := h.tree
  panels := h.panels
  properties := by
    rw [Pass.addProperty, Pass.addProperty, h.properties]
    exact record_eq hrow _
  trace := by rw [Pass.addProperty, Pass.addProperty, h.trace, h.row, nameOf_eq hrow]
  queue := h.queue
  row := congrArg (· + 1) h.row

theorem Alike.addField (h : Alike pass pass') (hrow : Agree Eq row row')
    (huntangled : Field.Untangled row) (settings : Settings) :
    Alike (pass.addField settings row) (pass'.addField settings row') := by
  have hfield := Field.agree_build hrow huntangled settings
  have hparent : ((row'.build settings).get? "parent").bind Json.key? =
      ((row.build settings).get? "parent").bind Json.key? :=
    hfield.bind_get? (fun _ _ hv => hv.key?) "parent"
  have hpanel : panelName? row' = panelName? row := by
    rw [panelName?, panelName?, Field.type?, Field.type?, Field.name?, Field.name?, hrow.get?_eq,
      hrow.get?_eq]
  have hformula : (row'.build settings).hasFormula = (row.build settings).hasFormula := by
    rw [Field.hasFormula, Field.hasFormula, Field.formula?_eq hfield]
  exact {
    tree := by
      simp only [Pass.addField, Panels.attach, h.panels, hparent]
      exact h.tree.push _ (hfield.erase "parent")
    panels := by simp only [Pass.addField, Panels.attach, h.panels, hpanel, h.tree.size]
    properties := h.properties
    trace := by simp only [Pass.addField, Panels.attach, h.trace, h.row, h.tree.size]
    queue := by simp only [Pass.addField, Panels.attach, h.queue, hformula, h.tree.size]
    row := congrArg (· + 1) h.row }

/-- **A row is taken up alike**, whatever it becomes. -/
theorem Alike.addRow {settings : Settings} (h : Alike pass pass') {row row' : Entries}
    (hrow : Agree Eq (normalizeRow settings row) (normalizeRow settings row'))
    (huntangled : (normalizeRow settings row).Untangled) :
    Alike (pass.addRow settings row) (pass'.addRow settings row') := by
  have hproperty : Properties.isProperty (normalizeRow settings row') =
      Properties.isProperty (normalizeRow settings row) := by
    rw [Properties.isProperty, Properties.isProperty, Field.type?_eq hrow]
  simp only [Pass.addRow, hproperty]
  split_ifs
  · exact h.addProperty hrow
  · exact h.addField hrow huntangled settings

end Pass

/-! ### Payloads -/

namespace Rows

variable {settings : Settings}

def Reordered (row row' : Entries) : Prop :=
  row.keys.Nodup ∧ row.Perm row'

theorem isEligible_of_reordered {row row' : Entries} (h : Reordered row row') :
    isEligible row' = isEligible row := by
  have hagree := Agree.of_perm h.1 h.2
  rw [isEligible, isEligible]
  simp only [hagree.get?_eq]

theorem alike_foldl {rows rows' : List Entries} (h : List.Forall₂ Reordered rows rows') :
    ∀ {pass pass' : Pass}, pass.Alike pass' →
      (∀ row ∈ rows, (normalizeRow settings row).Untangled) →
      (rows.foldl (Pass.addRow settings) pass).Alike
        (rows'.foldl (Pass.addRow settings) pass') := by
  induction h with
  | nil => exact fun hpass _ => hpass
  | cons hrow _ ih =>
    intro pass pass' hpass huntangled
    obtain ⟨hfirst, hrest⟩ := List.forall_mem_cons.mp huntangled
    have hagree := Field.agree_normalizeRow hrow.1 hrow.2 settings
    exact ih (hpass.addRow hagree hfirst) hrest

/-- **Rows with their columns in another order build alike passes.** -/
theorem alike_ofRows {rows rows' : List Json} (h : List.Forall₂ (Rowwise Reordered) rows rows')
    (huntangled : ∀ row ∈ eligibleRows rows, (normalizeRow settings row).Untangled) :
    (Pass.ofRows settings rows).Alike (Pass.ofRows settings rows') :=
  alike_foldl (forall₂_eligibleRows h fun _ _ => isEligible_of_reordered) (.refl .initial)
    huntangled

end Rows

theorem Definition.alike_toJson (definition : Definition) {items items' : List Json}
    (h : List.Forall₂ Json.Alike items items') :
    Json.Alike { definition with items := items }.toJson
      { definition with items := items' }.toJson := by
  refine Json.alike_object.mpr (.of_forall₂ (List.rel_append ?_ ?_))
  · exact .cons ⟨rfl, .same _⟩ (.cons ⟨rfl, .same _⟩ (.cons ⟨rfl, .same _⟩ (.cons ⟨rfl, .same _⟩
      (.cons ⟨rfl, Json.alike_array.mpr h⟩ .nil))))
  · cases definition.action with
    | none => exact .nil
    | some action => exact .cons ⟨rfl, .same _⟩ .nil

open Rows

/-- **The order of the columns does not matter**: if the columns of each row stand in another order,
and no dotted column leads through the place of another one or into an attribute that is written
into a text, then the form definitions are the same up to the order of keys, and so are the
failures. -/
theorem transform_alike_of_reordered (settings : Settings) (validate : Bool)
    (sourceId : Option String) (metadata : Option Entries) {payload payload' : Json}
    {rows rows' : List Json} (hpayload : isDefinition payload = false)
    (hpayload' : isDefinition payload' = false) (hrows : rows? payload = some rows)
    (hrows' : rows? payload' = some rows') (h : List.Forall₂ (Rowwise Reordered) rows rows')
    (huntangled : ∀ row ∈ eligibleRows rows, (normalizeRow settings row).Untangled) :
    ∃ outcome outcome',
      (transform settings validate sourceId metadata payload).result = .ok outcome ∧
      (transform settings validate sourceId metadata payload').result = .ok outcome' ∧
      Json.Alike outcome.definition outcome'.definition ∧
      outcome'.failures = outcome.failures := by
  have hpass := alike_ofRows h huntangled
  obtain ⟨htree, hfailures⟩ := hpass.tree.compileAll validate (Pass.ofRows settings rows).queue
    (Pass.ofRows settings rows).trace
  obtain ⟨forest, hforest⟩ := exists_drawn settings validate rows
  let definition : Definition := { Definition.new sourceId metadata with
    properties := (Pass.ofRows settings rows).properties.defaults
    rules := (Pass.ofRows settings rows).properties.formRules }
  have hdefinition := definition.alike_toJson (htree.items hforest)
  rw [transform, transform, hpayload, hpayload', hrows, hrows']
  refine ⟨_, _, rfl, rfl, ?_, ?_⟩
  · simp only [buildForm, hpass.properties, hpass.queue, hpass.trace]
    exact hdefinition
  · simp only [buildForm, hpass.queue, hpass.trace]
    exact hfailures

/-- Rows with dotted columns that meet in one object, renamed columns, options by reference, and
formulas that can and that cannot be compiled. -/
def columnRows : List Entries := [
  [("Field", .string "pane"), ("Type", .string "panel"), ("Label", .string "Pane"),
    ("label.visible", .string "no")],
  [("Field", .string "price"), ("view", .string "wide"), ("view.size.width", .string "3"),
    ("view.size.height", .string "4"), ("rules.value", .string "=B4*2"),
    ("Parent", .string "pane")],
  [("Field", .string "city"), ("Options", .string "names"), ("enumRef", .string "/cities"),
    ("events.change", .string "save()"), ("Mandatory", .string "x")],
  [("Field", .string "sum"), ("rules.value", .string "=B9"), ("rules.visible", .string "true()")]]

theorem transform_alike_of_reordered_reverse :
    let rows := columnRows.map Json.object
    let rows' := columnRows.map fun row => Json.object row.reverse
    let payload := Json.object [("data", .array rows)]
    let payload' := Json.object [("data", .array rows')]
    isDefinition payload = false ∧ isDefinition payload' = false ∧
    rows? payload = some rows ∧ rows? payload' = some rows' ∧
    List.Forall₂ (Rowwise Reordered) rows rows' ∧
    (∀ row ∈ eligibleRows rows, (normalizeRow .usual row).Untangled) ∧
    ∃ outcome outcome',
      (transform .usual true none none payload).result = .ok outcome ∧
      (transform .usual true none none payload').result = .ok outcome' ∧
      Json.Alike outcome.definition outcome'.definition ∧
      outcome'.failures = outcome.failures := by
  intro rows rows' payload payload'
  have hnodup : ∀ row ∈ columnRows, row.keys.Nodup := by decide
  have h : List.Forall₂ (Rowwise Reordered) rows rows' := by
    refine List.forall₂_map_left_iff.mpr (List.forall₂_map_right_iff.mpr ?_)
    refine List.forall₂_same.mpr fun row hrow => .row ⟨hnodup row hrow, ?_⟩
    exact (List.reverse_perm row).symm
  have huntangled : ∀ row ∈ eligibleRows rows, (normalizeRow .usual row).Untangled := by
    decide +kernel
  exact ⟨rfl, rfl, rfl, rfl, h, huntangled,
    transform_alike_of_reordered .usual true none none rfl rfl rfl rfl h huntangled⟩

end AdaptiveForm
