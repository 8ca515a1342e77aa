import AdaptiveForm.Proofs.Form.Compilation
import AdaptiveForm.Proofs.Form.Rows

/-!
# The document of some rows

After the last row every queued formula is compiled, and the items of the document are assembled.
The queue holds all fields with a formula, so the field of a row is shown as `shown` says, however
many formulas there are and in which rows they stand.  Compiling leaves the lists of the tree alone,
so the forest that is drawn from the row pass is also that of the document, `exists_document`.
-/

namespace AdaptiveForm

namespace Rows

variable (settings : Settings) (validate : Bool) (rows : List Json)

def paths : Rule.RowPaths :=
  (Pass.ofRows settings rows).trace.paths (Pass.ofRows settings rows).tree

def tree : Tree :=
  (compileAll validate (Pass.ofRows settings rows).tree (Pass.ofRows settings rows).queue
    (Pass.ofRows settings rows).trace).1

/-- The field of a row as it stands in the document, less what lies in it: it is finished, has no
parent any more, and its formula is compiled if it can be. -/
def shown (row : Entries) : Field :=
  Field.compiled (paths settings rows) validate ((finished settings row).erase "parent")

def fieldsOf : List Entries :=
  fieldRows settings (eligibleRows rows)

variable {settings validate rows}

/-- What is shown of a row is finished, but for its rules and its parent. -/
theorem get?_shown {key : String} (hrules : key ≠ "rules") (hparent : key ≠ "parent")
    (row : Entries) :
    (shown settings validate rows row).get? key = (finished settings row).get? key := by
  rw [shown, Field.get?_compiled hrules, Entries.get?_erase_of_ne _ hparent]

theorem formula?_erase_parent (field : Field) :
    Field.formula? (Entries.erase field "parent") = field.formula? := by
  rw [Field.formula?, Field.formula?, Field.valueRule?, Field.valueRule?,
    Entries.get?_erase_of_ne field (by decide)]

theorem failure?_erase_parent (paths : Rule.RowPaths) (validate : Bool) (field : Field) :
    Field.failure? paths validate (Entries.erase field "parent") =
      field.failure? paths validate := by
  rw [Field.failure?, Field.failure?, formula?_erase_parent]

theorem tree_ofRows :
    (Pass.ofRows settings rows).tree = .build (additions settings (fieldsOf settings rows)) :=
  (takes_ofRows settings rows).tree

theorem queue_ofRows :
    (Pass.ofRows settings rows).queue = formulaRows settings (fieldsOf settings rows) :=
  (takes_ofRows settings rows).queue

theorem size_ofRows : (Pass.ofRows settings rows).tree.size = (fieldsOf settings rows).length := by
  rw [tree_ofRows, (Tree.lists_build _).size, length_additions]

theorem field?_ofRows (i : Nat) : (Pass.ofRows settings rows).tree.field? i =
    (fieldsOf settings rows)[i]?.map fun row => (finished settings row).erase "parent" := by
  rw [tree_ofRows, (Tree.lists_build _).fields, field_additions]

/-- A field lies in that of the row's panel. -/
theorem parent?_ofRows {i : Nat} (h : i < (fieldsOf settings rows).length) :
    (Pass.ofRows settings rows).tree.parent? i = owner? settings (fieldsOf settings rows) i := by
  rw [tree_ofRows, (Tree.lists_build _).parents]
  exact ownerAt_additions h

/-- A container lists the rows that belong to it, in their order. -/
theorem children_ofRows (owner : Option Nat) :
    (Pass.ofRows settings rows).tree.children (.ofOwner owner) =
      (List.range (fieldsOf settings rows).length).filter fun i =>
        owner? settings (fieldsOf settings rows) i = owner := by
  rw [tree_ofRows, (Tree.lists_build _).children, length_additions]
  apply List.filter_congr
  intro i hi
  have hinj : ∀ o o' : Option Nat, Container.ofOwner o = Container.ofOwner o' ↔ o = o' := by
    rintro (_ | p) (_ | p') <;> simp [Container.ofOwner]
  rw [homeAt, ownerAt_additions (List.mem_range.mp hi), decide_eq_decide]
  exact hinj _ _

/-- All fields with a formula are queued, so that every field is compiled. -/
theorem rewritten_tree : Tree.Rewritten
    (fun _ field => field.compiled (paths settings rows) validate)
    (Pass.ofRows settings rows).tree (tree settings validate rows) := by
  refine (rewritten_compileAll validate _ _ _).congr ?_
  intro i field hfield
  split_ifs with hi
  · rfl
  · -- a field that is not queued has no formula
    symm
    apply Field.compiled_of_none
    rw [field?_ofRows] at hfield
    obtain ⟨row, hrow, rfl⟩ := Option.map_eq_some_iff.mp hfield
    rw [queue_ofRows, mem_formulaRows] at hi
    rw [formula?_erase_parent, ← Option.not_isSome_iff_eq_none]
    exact fun hf => hi ⟨row, hrow, hf⟩

/-- **The field of a row as it is shown.** -/
theorem field?_tree (i : Nat) : (tree settings validate rows).field? i =
    (fieldsOf settings rows)[i]?.map (shown settings validate rows) := by
  rw [rewritten_tree.field?, field?_ofRows]
  cases (fieldsOf settings rows)[i]? with
  | none => simp only [Option.map_none]
  | some row => exact congrArg some (Eq.refl (shown settings validate rows row))

theorem filterMap_range {α β : Type} (l : List α) (f : α → Option β) :
    (List.range l.length).filterMap (fun i => l[i]?.bind f) = l.filterMap f := by
  induction l using List.reverseRecOn with
  | nil => rfl
  | append_singleton l a ih =>
    rw [List.length_append, List.length_singleton, List.range_succ, List.filterMap_append,
      List.filterMap_append, ← ih]
    congr 1
    · apply List.filterMap_congr
      intro i hi
      rw [List.getElem?_append_left (List.mem_range.mp hi)]
    · rw [List.filterMap_cons, List.getElem?_concat_length, List.filterMap_cons]
      rfl

theorem failures_ofRows (validate : Bool) : (compileAll validate (Pass.ofRows settings rows).tree
      (Pass.ofRows settings rows).queue (Pass.ofRows settings rows).trace).2 =
    (fieldsOf settings rows).filterMap fun row =>
      (finished settings row).failure? (paths settings rows) validate := by
  rw [failures_compileAll, queue_ofRows, formulaRows, List.filterMap_filter,
    ← filterMap_range (fieldsOf settings rows)]
  apply List.filterMap_congr
  intro i _
  rw [Tree.failure?, field?_ofRows, Option.bind_map]
  cases (fieldsOf settings rows)[i]? with
  | none => rfl
  | some row =>
    simp only [Option.any_some, Option.bind_some, Function.comp_apply]
    split_ifs with hf
    · exact failure?_erase_parent _ _ _
    · symm
      apply Field.failure?_of_none
      exact Option.not_isSome_iff_eq_none.mp hf

/-- The field is that of a row: the finished one, which has no parent any more, and has a rule in
the place of its formula if that has been compiled. -/
def IsFieldOf (settings : Settings) (row : Entries) (field : Field) : Prop :=
  field = (finished settings row).erase "parent" ∨
    ∃ rule, Field.RuleReplaced ((finished settings row).erase "parent") rule field

theorem isFieldOf_shown (row : Entries) :
    IsFieldOf settings row (shown settings validate rows row) := by
  rw [shown, Field.compiled]
  split
  · exact .inl rfl
  · rename_i formula hformula
    obtain ⟨hrule, -⟩ := Field.formula?_eq_some_iff.mp hformula
    split
    · exact .inr ⟨_, Field.ruleReplaced_setValueRule hrule _⟩
    · exact .inl rfl

theorem isFieldOf_tree {i : Nat} {row : Entries} (h : (fieldsOf settings rows)[i]? = some row) :
    ∃ field, (tree settings validate rows).field? i = some field ∧
      IsFieldOf settings row field := by
  refine ⟨shown settings validate rows row, ?_, isFieldOf_shown row⟩
  rw [field?_tree, h]
  exact congrArg some (Eq.refl _)

theorem size_tree : (tree settings validate rows).size = (fieldsOf settings rows).length :=
  rewritten_tree.size.trans size_ofRows

theorem children_tree (owner : Option Nat) :
    (tree settings validate rows).children (.ofOwner owner) =
      (List.range (fieldsOf settings rows).length).filter fun i =>
        owner? settings (fieldsOf settings rows) i = owner :=
  (rewritten_tree.children _).trans (children_ofRows owner)

end Rows

open Rows

theorem Rows.exists_drawn (settings : Settings) (validate : Bool) (rows : List Json) :
    ∃ forest, (tree settings validate rows).Drawn forest := by
  obtain ⟨forest, hforest⟩ := Tree.drawn_build (additions settings (fieldsOf settings rows))
  rw [← tree_ofRows] at hforest
  exact ⟨forest, hforest.congr rewritten_tree.size rewritten_tree.children⟩

theorem Definition.get?_items (definition : Definition) :
    definition.toJson.get? "items" = some (.array definition.items) := by
  simp [toJson, marker, Json.get?, Entries.get?, lookup_cons_ite]

/-- A payload with rows is transformed into the form that is built of them. -/
theorem transform_eq_ok (settings : Settings) (validate : Bool) (sourceId : Option String)
    (metadata : Option Entries) {payload : Json} {rows : List Json}
    (hpayload : isDefinition payload = false) (hrows : rows? payload = some rows) :
    (transform settings validate sourceId metadata payload).result =
      .ok ⟨(buildForm settings validate sourceId metadata rows).definition.toJson, some payload,
        (buildForm settings validate sourceId metadata rows).failures⟩ := by
  simp only [transform, hpayload, hrows, Bool.false_eq_true, if_false]

/-- The values show the fields of some rows, each of them once: the `i`-th row is that of the field
with the number `i`. -/
structure Displayed (settings : Settings) (fields : List Entries) (tree : Tree)
    (forest : List Nest) (values : List Json) : Prop where
  shows : tree.ShowsAll forest values
  once : (Nest.idsAll forest).Perm (List.range fields.length)
  fields : ∀ i row, fields[i]? = some row →
    ∃ field, tree.field? i = some field ∧ IsFieldOf settings row field

/-- **The document of a payload displays its rows**, and the failures are those of the fields, in
the order of the rows. -/
theorem exists_document (settings : Settings) (validate : Bool) (sourceId : Option String)
    (metadata : Option Entries) {payload : Json} {rows : List Json}
    (hpayload : isDefinition payload = false) (hrows : rows? payload = some rows) :
    ∃ outcome values forest,
      (transform settings validate sourceId metadata payload).result = .ok outcome ∧
      outcome.definition.get? "items" = some (.array values) ∧
      outcome.failures = ((fieldsOf settings rows).filterMap fun row =>
        (finished settings row).failure? (paths settings rows) validate) ∧
      (tree settings validate rows).Drawn forest ∧
      Displayed settings (fieldsOf settings rows) (tree settings validate rows) forest values := by
  obtain ⟨forest, hforest⟩ := exists_drawn settings validate rows
  let form := buildForm settings validate sourceId metadata rows
  refine ⟨⟨form.definition.toJson, some payload, form.failures⟩,
    (tree settings validate rows).items, forest,
    transform_eq_ok settings validate sourceId metadata hpayload hrows, ?_, ?_, hforest, ?_⟩
  · exact Definition.get?_items form.definition
  · exact failures_ofRows validate
  · exact {
      shows := hforest.showsAll_items
      once := by
        have hsize : (tree settings validate rows).size = (fieldsOf settings rows).length :=
          size_tree
        rw [← hsize]
        exact hforest.once
      fields := fun i row hrow => isFieldOf_tree hrow }

end AdaptiveForm
