import AdaptiveForm.Proofs.Field.Finishing
import AdaptiveForm.Proofs.Form.Document

/-!
# What is reported of formulas

A formula that can be compiled gives way to its rule, and no rule begins with `=`; one that cannot
stays where it is and is reported.  So the fields of a document that still have a formula are those
of the reports, one after the other (`transform_reports_formulas`), and the text of a report is what
the row has in the cell of its value rule (`holdsRule_of_valueRule?`).
-/

namespace AdaptiveForm

/-! ### One field -/

namespace Field

variable {paths : Rule.RowPaths} {validate : Bool} {field : Field}

theorem failure?_eq_some {failure : RuleFailure}
    (h : field.failure? paths validate = some failure) :
    field.formula? = some failure.rule ∧
      ∃ e, Rule.compile paths validate failure.rule = .error e ∧ failure.error = e.message := by
  cases hf : field.formula? with
  | none =>
    rw [failure?_of_none hf] at h
    cases h
  | some formula =>
    cases hc : Rule.compile paths validate formula with
    | ok rule =>
      rw [failure?_of_ok hf hc] at h
      cases h
    | error e =>
      rw [failure?_of_error hf hc] at h
      cases h
      exact ⟨rfl, e, hc, rfl⟩

/-- A compiled field has the formula that is reported of it, and no other. -/
theorem formula?_compiled_eq (hp : ∀ row path, paths row = some path → Rule.NotFormula path) :
    (field.compiled paths validate).formula? =
      (field.failure? paths validate).map RuleFailure.rule := by
  cases hf : field.formula? with
  | none => rw [compiled_of_none hf, failure?_of_none hf, hf, Option.map_none]
  | some formula =>
    cases hc : Rule.compile paths validate formula with
    | ok rule => rw [formula?_compiled hp hf hc, failure?_of_ok hf hc, Option.map_none]
    | error e => rw [compiled_of_error hf hc, failure?_of_error hf hc, hf, Option.map_some]

theorem valueRule?_compiled {formula : String} (hf : field.formula? = some formula)
    (h : field.failure? paths validate = none) :
    ∃ rule, Rule.compile paths validate formula = .ok rule ∧
      (field.compiled paths validate).valueRule? = some rule := by
  cases hc : Rule.compile paths validate formula with
  | ok rule =>
    obtain ⟨hold, -⟩ := formula?_eq_some_iff.mp hf
    refine ⟨rule, rfl, ?_⟩
    rw [compiled_of_ok hf hc]
    exact (ruleReplaced_setValueRule hold rule).valueRule?
  | error e =>
    rw [failure?_of_error hf hc] at h
    cases h

end Field

/-! ### What a row holds -/

namespace Rows

variable {settings : Settings} {row : Entries}

theorem cell_of_mem_normalizeRow : ∀ entry ∈ normalizeRow settings row,
    entry.2 ∈ row.map Prod.snd ∨
      entry.2 = .object [("required", .string settings.requiredMessage)] := by
  refine Field.normalizeNames_induction
    (motive := fun field => ∀ entry ∈ field, entry.2 ∈ row.map Prod.snd ∨
      entry.2 = .object [("required", .string settings.requiredMessage)]) ?_ ?_
  · intro field rename _ value hvalue hfield entry hentry
    rcases Entries.mem_insert _ _ _ hentry with rfl | hentry
    · exact hfield (rename.source, value) (Entries.mem_of_get? field hvalue)
    · exact hfield _ (List.mem_filter.mp hentry).1
  · intro entry hentry
    rcases Entries.mem_insert _ _ _ hentry with rfl | hentry
    · exact .inr rfl
    · exact .inl (List.mem_map_of_mem (List.mem_filter.mp hentry).1)

/-- The text is what a row has for its value rule: after its columns have been renamed, one of its
cells stands in the column of the value rule and is the text, or stands in that of the rules and has
the text for its value. -/
def HoldsRule (settings : Settings) (row : Entries) (text : String) : Prop :=
  ∃ column, ∃ cell ∈ row.map Prod.snd, (normalizeRow settings row).get? column = some cell ∧
    ((column = "rules.value" ∧ cell = .string text) ∨
      (column = "rules" ∧ cell.get? "value" = some (.string text)))

/-- **A row holds the value rule of its field.** -/
theorem holdsRule_of_valueRule? {text : String}
    (h : (finished settings row).valueRule? = some text) : HoldsRule settings row text := by
  rcases Field.inRules_of_build h with hcell | ⟨rules, hcell, hvalue⟩
  · have hmem := Entries.mem_of_get? _ hcell
    rcases cell_of_mem_normalizeRow _ hmem with hmem | hmessage
    · exact ⟨"rules.value", _, hmem, hcell, .inl ⟨rfl, rfl⟩⟩
    · cases hmessage
  · have hmem := Entries.mem_of_get? _ hcell
    rcases cell_of_mem_normalizeRow _ hmem with hmem | hmessage
    · exact ⟨"rules", _, hmem, hcell, .inr ⟨rfl, hvalue⟩⟩
    · -- the message for required fields has no value
      cases hmessage
      cases hvalue

/-- The failure is that of the formula which still stands in the field of a row. -/
structure Reported (settings : Settings) (paths : Rule.RowPaths) (validate : Bool) (row : Entries)
    (field : Field) (failure : RuleFailure) : Prop where
  standing : field.formula? = some failure.rule
  finished : (finished settings row).formula? = some failure.rule
  held : HoldsRule settings row failure.rule
  reason : ∃ e, Rule.compile paths validate failure.rule = .error e ∧ failure.error = e.message

variable {validate : Bool} {rows : List Json}

theorem notFormula_paths : ∀ r path, paths settings rows r = some path → Rule.NotFormula path :=
  Trace.notFormula_paths _ _

theorem formula?_shown (row : Entries) : (shown settings validate rows row).formula? =
    ((finished settings row).failure? (paths settings rows) validate).map RuleFailure.rule := by
  rw [shown, Field.formula?_compiled_eq notFormula_paths, failure?_erase_parent]

theorem reported_shown {failure : RuleFailure}
    (h : (finished settings row).failure? (paths settings rows) validate = some failure) :
    Reported settings (paths settings rows) validate row (shown settings validate rows row)
      failure := by
  obtain ⟨hformula, hreason⟩ := Field.failure?_eq_some h
  obtain ⟨hrule, -⟩ := Field.formula?_eq_some_iff.mp hformula
  exact {
    standing := by rw [formula?_shown, h, Option.map_some]
    finished := hformula
    held := holdsRule_of_valueRule? hrule
    reason := hreason }

/-- Every formula of some rows is compiled or reported, and not both. -/
structure Accounted (settings : Settings) (validate : Bool) (rows : List Json) (tree : Tree)
    (failures : List RuleFailure) : Prop where
  reported : List.Forall₂ (fun failure i => ∃ row field, (fieldsOf settings rows)[i]? = some row ∧
      tree.field? i = some field ∧
      Reported settings (paths settings rows) validate row field failure)
    failures
    ((List.range (fieldsOf settings rows).length).filter fun i =>
      (tree.field? i).any Field.hasFormula)
  compiled : ∀ i row field formula, (fieldsOf settings rows)[i]? = some row →
    tree.field? i = some field → (finished settings row).formula? = some formula →
    field.hasFormula = false →
    ∃ rule, Rule.compile (paths settings rows) validate formula = .ok rule ∧
      field.valueRule? = some rule
  notFormula : ∀ formula rule, Rule.compile (paths settings rows) validate formula = .ok rule →
    Field.isFormula rule = false

theorem forall₂_filterMap_filter {α β : Type} {R : β → α → Prop} {f : α → Option β} {p : α → Bool}
    {l : List α} (hp : ∀ a ∈ l, p a = (f a).isSome) (hR : ∀ a ∈ l, ∀ b, f a = some b → R b a) :
    List.Forall₂ R (l.filterMap f) (l.filter p) := by
  induction l with
  | nil => exact .nil
  | cons a l ih =>
    have hrest := ih (fun a ha => hp a (List.mem_cons_of_mem _ ha))
      (fun a ha => hR a (List.mem_cons_of_mem _ ha))
    have ha := hp a List.mem_cons_self
    cases hf : f a with
    | none =>
      rw [hf] at ha
      rw [List.filterMap_cons_none hf, List.filter_cons, ha]
      exact hrest
    | some b =>
      rw [hf] at ha
      rw [List.filterMap_cons_some hf, List.filter_cons, ha]
      exact .cons (hR a List.mem_cons_self b hf) hrest

theorem accounted_tree (settings : Settings) (validate : Bool) (rows : List Json) :
    Accounted settings validate rows (tree settings validate rows)
      ((fieldsOf settings rows).filterMap fun row =>
        (finished settings row).failure? (paths settings rows) validate) where
  reported := by
    rw [← filterMap_range]
    apply forall₂_filterMap_filter
    · intro i _
      rw [field?_tree]
      cases (fieldsOf settings rows)[i]? with
      | none => rfl
      | some row =>
        rw [Option.map_some, Option.any_some, Field.hasFormula, formula?_shown,
          Option.isSome_map, Option.bind_some]
    · intro i _ failure hfailure
      obtain ⟨row, hrow, hreport⟩ := Option.bind_eq_some_iff.mp hfailure
      refine ⟨row, shown settings validate rows row, hrow, ?_, reported_shown hreport⟩
      rw [field?_tree, hrow, Option.map_some]
  compiled := by
    intro i row field formula hrow hfield hformula hnone
    rw [field?_tree, hrow, Option.map_some, Option.some.injEq] at hfield
    subst hfield
    have hfailure : (finished settings row).failure? (paths settings rows) validate = none := by
      rw [Field.hasFormula, formula?_shown] at hnone
      simpa using hnone
    rw [← failure?_erase_parent] at hfailure
    rw [← formula?_erase_parent] at hformula
    exact Field.valueRule?_compiled hformula hfailure
  notFormula := by
    intro formula rule hrule
    exact Field.isFormula_eq_false (Rule.notFormula_of_compile notFormula_paths hrule)

end Rows

open Rows

/-- **Every formula is compiled or reported, and not both.** A payload that is a definition already
has no formulas to report. Otherwise the fields of the document that still have a formula are those
of the failures, one after the other in the order of the rows; any other field whose row has a
formula holds the rule it is compiled to with the paths of all rows; and no rule is a formula. -/
theorem transform_reports_formulas (settings : Settings) (validate : Bool)
    (sourceId : Option String) (metadata : Option Entries) {payload : Json} {outcome : Outcome}
    (h : (transform settings validate sourceId metadata payload).result = .ok outcome) :
    (isDefinition payload = true ∧ outcome.definition = payload ∧ outcome.failures = []) ∨
    ∃ rows values tree forest,
      isDefinition payload = false ∧ rows? payload = some rows ∧
      outcome.definition.get? "items" = some (.array values) ∧
      Displayed settings (fieldsOf settings rows) tree forest values ∧
      Accounted settings validate rows tree outcome.failures := by
  cases hdefinition : isDefinition payload with
  | true =>
    left
    rw [transform, hdefinition] at h
    cases h
    exact ⟨rfl, rfl, rfl⟩
  | false =>
    right
    cases hrows : rows? payload with
    | none =>
      rw [transform, hdefinition, hrows] at h
      cases h
    | some rows =>
      obtain ⟨outcome', values, forest, hresult, hitems, hfailures, -, hdisplayed⟩ :=
        exists_document settings validate sourceId metadata hdefinition hrows
      cases h.symm.trans hresult
      have haccounted := accounted_tree settings validate rows
      rw [← hfailures] at haccounted
      exact ⟨rows, values, _, forest, rfl, rfl, hitems, hdisplayed, haccounted⟩

/-- Rows with a formula that refers to a row below it, one that refers to no row, and one that does
not end. -/
def lostRows : List Json := [
  .object [("name", .string "total"), ("rules.value", .string "=F3*2")],
  .object [("name", .string "price")],
  .object [("name", .string "lost"), ("rules", .object [("value", .string "=F9")])],
  .object [("Field", .string "open"), ("rules.value", .string "=1+")]]

theorem transform_reports_formulas_lost :
    let payload := Json.object [("data", .array lostRows)]
    ∃ outcome, (transform .usual true none none payload).result = .ok outcome ∧
      outcome.failures = [⟨"=F9", "Unknown reference: f9"⟩,
        ⟨"=1+", "Syntax error at position 2: unexpected end of formula"⟩] ∧
      ∃ values tree forest, outcome.definition.get? "items" = some (.array values) ∧
        Displayed .usual (fieldsOf .usual lostRows) tree forest values ∧
        Accounted .usual true lostRows tree outcome.failures := by
  intro payload
  have hpayload : isDefinition payload = false := rfl
  have hrows : rows? payload = some lostRows := rfl
  obtain ⟨outcome, -, -, hresult, -, hfailures, -⟩ :=
    exists_document .usual true none none hpayload hrows
  refine ⟨outcome, hresult, ?_, ?_⟩
  · rw [hfailures]
    decide +kernel
  · rcases transform_reports_formulas .usual true none none hresult with
      ⟨hdefinition, -⟩ | ⟨rows, values, tree, forest, -, hrows, hitems, hdisplayed, haccounted⟩
    · cases hdefinition
    · cases hrows
      exact ⟨values, tree, forest, hitems, hdisplayed, haccounted⟩

end AdaptiveForm
