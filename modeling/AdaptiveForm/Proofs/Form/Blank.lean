import AdaptiveForm.Proofs.Form.Document
import AdaptiveForm.Proofs.Form.Rowwise

/-!
# Rows that lose blank cells

A normalized row has no blank cells, so a row that has lost some of them is normalized to the same
one (`normalizeRow_eq`), and as long as the same rows become something, the pass over them and the
form are the same (`ofRows_eq`).

Which rows become something is asked before the blank cells are left out, and there an empty array
counts as a yes though it is blank.  So a row whose name is an empty array becomes a field without a
name, and takes a row number from the rows below it.  Every other blank cell may be left out,
`transform_eq_of_names_nonempty`.
-/

namespace AdaptiveForm

/-- The second row is the first one without some of its blank cells. -/
inductive Entries.LosesBlanks : Entries → Entries → Prop
  | nil : LosesBlanks [] []
  | keep (cell : String × Json) {row row' : Entries} (h : LosesBlanks row row') :
      LosesBlanks (cell :: row) (cell :: row')
  | lose {cell : String × Json} (hblank : cell.2.isBlank = true) {row row' : Entries}
      (h : LosesBlanks row row') : LosesBlanks (cell :: row) row'

namespace Rows

variable {settings : Settings} {row row' : Entries} {rows rows' : List Json}

theorem stripBlanks_eq (h : row.LosesBlanks row') :
    Field.stripBlanks row' = Field.stripBlanks row := by
  induction h with
  | nil => rfl
  | keep cell _ ih =>
    rw [Field.stripBlanks, Field.stripBlanks] at ih ⊢
    rw [List.filter_cons, List.filter_cons, ih]
  | lose hblank _ ih =>
    rw [ih, Field.stripBlanks, Field.stripBlanks, List.filter_cons_of_neg (by simp [hblank])]

/-- **A blank cell is lost when its row is normalized**, if not before. -/
theorem normalizeRow_eq (h : row.LosesBlanks row') :
    normalizeRow settings row' = normalizeRow settings row := by
  rw [normalizeRow, normalizeRow, stripBlanks_eq h]

theorem sublist_of_losesBlanks (h : row.LosesBlanks row') : row'.Sublist row := by
  induction h with
  | nil => exact .slnil
  | keep cell _ ih => exact ih.cons_cons cell
  | lose _ _ ih => exact ih.cons _

theorem get?_losesBlanks (h : row.LosesBlanks row') (hkeys : row.keys.Nodup) (column : String) :
    row'.get? column = row.get? column ∨
      row'.get? column = none ∧ ∃ value, row.get? column = some value ∧ value.isBlank = true := by
  induction h with
  | nil => exact .inl rfl
  | @keep cell row row' _ ih =>
    obtain ⟨k, v⟩ := cell
    have hrest := ih (List.nodup_cons.mp hkeys).2
    rw [Entries.get?, Entries.get?, lookup_cons_ite, lookup_cons_ite]
    split_ifs
    · exact .inl rfl
    · exact hrest
  | @lose cell hblank row row' h ih =>
    obtain ⟨k, v⟩ := cell
    obtain ⟨hnew, hrest⟩ := List.nodup_cons.mp hkeys
    rw [Entries.get?, Entries.get?, lookup_cons_ite]
    split_ifs with hk
    · -- no other cell of the row stands in this column
      right
      refine ⟨?_, v, rfl, hblank⟩
      cases hget : row'.get? column with
      | none => exact hget
      | some value =>
        have hmem := (sublist_of_losesBlanks h).subset (Entries.mem_of_get? row' hget)
        exact absurd (List.mem_map_of_mem hmem) (hk ▸ hnew)
    · exact ih hrest

theorem isTruthy_of_isBlank {value : Json} (h : value.isBlank = true) (hne : value ≠ .array []) :
    value.isTruthy = false := by
  cases value with
  | array items => exact absurd (congrArg _ (List.isEmpty_iff.mp h)) hne
  | object entries => cases h
  | null => rfl
  | bool value => simpa [Json.isBlank, Json.isTruthy] using h
  | number value => simpa [Json.isBlank, Json.isTruthy] using h
  | string value => simpa [Json.isBlank, Json.isTruthy] using h

/-- A row becomes something as it did before, unless its name was an empty array. -/
theorem isEligible_eq (h : row.LosesBlanks row') (hkeys : row.keys.Nodup)
    (hnames : ∀ column ∈ ["name", "Field"], row.get? column ≠ some (.array [])) :
    isEligible row' = isEligible row := by
  have hcolumn : ∀ column ∈ ["name", "Field"],
      (row'.get? column).any Json.isTruthy = (row.get? column).any Json.isTruthy := by
    intro column hmem
    rcases get?_losesBlanks h hkeys column with heq | ⟨hnone, value, hvalue, hblank⟩
    · rw [heq]
    · have hne : value ≠ .array [] := fun he => hnames column hmem (he ▸ hvalue)
      rw [hnone, hvalue, Option.any_none, Option.any_some, isTruthy_of_isBlank hblank hne]
  simp only [isEligible, List.any_cons, List.any_nil, hcolumn "name" (by decide),
    hcolumn "Field" (by decide)]

theorem forall₂_isEligible_eq (h : List.Forall₂ (Rowwise Entries.LosesBlanks) rows rows')
    (hkeys : ∀ row : Entries, .object row ∈ rows → row.keys.Nodup)
    (hnames : ∀ row : Entries, .object row ∈ rows → ∀ column ∈ ["name", "Field"],
      row.get? column ≠ some (.array [])) :
    List.Forall₂
      (Rowwise fun row row' => row.LosesBlanks row' ∧ isEligible row' = isEligible row)
      rows rows' := by
  induction h with
  | nil => exact .nil
  | cons hrow _ ih =>
    refine .cons ?_ (ih (fun row hmem => hkeys row (.tail _ hmem))
      fun row hmem => hnames row (.tail _ hmem))
    cases hrow with
    | row hlose =>
      exact .row ⟨hlose, isEligible_eq hlose (hkeys _ (.head _)) (hnames _ (.head _))⟩
    | other hvalue hvalue' => exact .other hvalue hvalue'

theorem ofRows_eq (h : List.Forall₂
      (Rowwise fun row row' => row.LosesBlanks row' ∧ isEligible row' = isEligible row)
      rows rows') :
    Pass.ofRows settings rows' = Pass.ofRows settings rows := by
  have hrows := forall₂_eligibleRows h fun _ _ hrow => hrow.2
  have hnormalized : (eligibleRows rows').map (normalizeRow settings) =
      (eligibleRows rows).map (normalizeRow settings) := by
    generalize eligibleRows rows = fields, eligibleRows rows' = fields' at hrows
    induction hrows with
    | nil => rfl
    | cons hrow _ ih => rw [List.map_cons, List.map_cons, normalizeRow_eq hrow.1, ih]
  rw [ofRows_eq_foldl, ofRows_eq_foldl, hnormalized]

/-- The form has as many items as there are rows that belong to no panel. -/
theorem exists_items (settings : Settings) (validate : Bool) (sourceId : Option String)
    (metadata : Option Entries) {payload : Json} (hpayload : isDefinition payload = false)
    (hrows : rows? payload = some rows) : ∃ outcome values,
      (transform settings validate sourceId metadata payload).result = .ok outcome ∧
      outcome.definition.get? "items" = some (.array values) ∧
      values.length = ((List.range (fieldsOf settings rows).length).filter fun i =>
        owner? settings (fieldsOf settings rows) i = none).length ∧
      outcome.failures = ((fieldsOf settings rows).filterMap fun row =>
        (finished settings row).failure? (paths settings rows) validate) := by
  obtain ⟨outcome, values, forest, hresult, hvalues, hfailures, hdrawn, hdisplayed⟩ :=
    exists_document settings validate sourceId metadata hpayload hrows
  have hroots := hdrawn.roots.trans (children_tree none)
  refine ⟨outcome, values, hresult, hvalues, ?_, hfailures⟩
  rw [hdisplayed.shows.length_eq, ← hroots, List.length_map]

end Rows

open Rows

theorem transform_eq_of_ofRows_eq {settings : Settings} {validate : Bool}
    {sourceId : Option String} {metadata : Option Entries} {payload payload' : Json}
    {rows rows' : List Json} (hpayload : isDefinition payload = false)
    (hpayload' : isDefinition payload' = false) (hrows : rows? payload = some rows)
    (hrows' : rows? payload' = some rows')
    (hpass : Pass.ofRows settings rows' = Pass.ofRows settings rows) :
    ∃ outcome outcome',
      (transform settings validate sourceId metadata payload).result = .ok outcome ∧
      (transform settings validate sourceId metadata payload').result = .ok outcome' ∧
      outcome'.definition = outcome.definition ∧ outcome'.failures = outcome.failures := by
  have hform : buildForm settings validate sourceId metadata rows' =
      buildForm settings validate sourceId metadata rows := by
    rw [buildForm, buildForm, hpass]
  rw [transform, transform, hpayload, hpayload', hrows, hrows']
  exact ⟨_, _, rfl, rfl, congrArg (·.definition.toJson) hform, congrArg BuiltForm.failures hform⟩

/-- **Blank cells are as good as absent**, for rows that become something with or without them: the
payload whose rows have lost them gives the same definition and the same failures. -/
theorem transform_eq_of_losesBlanks (settings : Settings) (validate : Bool)
    (sourceId : Option String) (metadata : Option Entries) {payload payload' : Json}
    {rows rows' : List Json} (hpayload : isDefinition payload = false)
    (hpayload' : isDefinition payload' = false) (hrows : rows? payload = some rows)
    (hrows' : rows? payload' = some rows')
    (h : List.Forall₂
      (Rowwise fun row row' => row.LosesBlanks row' ∧ isEligible row' = isEligible row)
      rows rows') :
    ∃ outcome outcome',
      (transform settings validate sourceId metadata payload).result = .ok outcome ∧
      (transform settings validate sourceId metadata payload').result = .ok outcome' ∧
      outcome'.definition = outcome.definition ∧ outcome'.failures = outcome.failures := by
  exact transform_eq_of_ofRows_eq hpayload hpayload' hrows hrows' (ofRows_eq h)

/-- **Only an empty array in the place of a name is not as good as absent.** It is enough to look at
the rows before they lose their blank cells: if no column occurs twice in a row, and none that names
the row holds an empty array, the definition and the failures stay as they are. -/
theorem transform_eq_of_names_nonempty (settings : Settings) (validate : Bool)
    (sourceId : Option String) (metadata : Option Entries) {payload payload' : Json}
    {rows rows' : List Json} (hpayload : isDefinition payload = false)
    (hpayload' : isDefinition payload' = false) (hrows : rows? payload = some rows)
    (hrows' : rows? payload' = some rows')
    (h : List.Forall₂ (Rowwise Entries.LosesBlanks) rows rows')
    (hkeys : ∀ row : Entries, .object row ∈ rows → row.keys.Nodup)
    (hnames : ∀ row : Entries, .object row ∈ rows → ∀ column ∈ ["name", "Field"],
      row.get? column ≠ some (.array [])) :
    ∃ outcome outcome',
      (transform settings validate sourceId metadata payload).result = .ok outcome ∧
      (transform settings validate sourceId metadata payload').result = .ok outcome' ∧
      outcome'.definition = outcome.definition ∧ outcome'.failures = outcome.failures :=
  transform_eq_of_ofRows_eq hpayload hpayload' hrows hrows'
    (ofRows_eq (forall₂_isEligible_eq h hkeys hnames))

/-- Rows with blank cells of every kind, among them an empty array for a name that is not needed. -/
def blankRows : List Json := [
  .object [("name", .array []), ("Field", .string "a"), ("enum", .array []), ("min", .ofNat 0)],
  .null,
  .object [("label", .string "note"), ("name", .string "")],
  .object [("name", .string "b"), ("rules.value", .string "=B2"), ("visible", .bool false),
    ("hint", .null)]]

def strippedRows : List Json := [
  .object [("Field", .string "a")],
  .null,
  .object [("label", .string "note")],
  .object [("name", .string "b"), ("rules.value", .string "=B2")]]

theorem transform_eq_of_losesBlanks_stripped :
    let payload := Json.object [("data", .array blankRows)]
    let payload' := Json.object [("data", .array strippedRows)]
    isDefinition payload = false ∧ isDefinition payload' = false ∧
    rows? payload = some blankRows ∧ rows? payload' = some strippedRows ∧
    List.Forall₂ (Rowwise fun row row' => row.LosesBlanks row' ∧ isEligible row' = isEligible row)
      blankRows strippedRows ∧
    ∃ outcome outcome',
      (transform .usual true none none payload).result = .ok outcome ∧
      (transform .usual true none none payload').result = .ok outcome' ∧
      outcome'.definition = outcome.definition ∧ outcome'.failures = outcome.failures := by
  intro payload payload'
  have h : List.Forall₂
      (Rowwise fun row row' => row.LosesBlanks row' ∧ isEligible row' = isEligible row)
      blankRows strippedRows := by
    refine .cons (.row ⟨?_, rfl⟩) (.cons (.other rfl rfl) (.cons (.row ⟨?_, rfl⟩)
      (.cons (.row ⟨?_, rfl⟩) .nil)))
    · exact .lose rfl (.keep _ (.lose rfl (.lose rfl .nil)))
    · exact .keep _ (.lose rfl .nil)
    · exact .keep _ (.keep _ (.lose rfl (.lose rfl .nil)))
  exact ⟨rfl, rfl, rfl, rfl, h,
    transform_eq_of_losesBlanks .usual true none none rfl rfl rfl rfl h⟩

def namelessRows : List Json := [
  .object [("name", .array [])],
  .object [("name", .string "a")],
  .object [("name", .string "b"), ("rules.value", .string "=B2")]]

def namedRows : List Json := [
  .object [],
  .object [("name", .string "a")],
  .object [("name", .string "b"), ("rules.value", .string "=B2")]]

/-- **A blank name is not as good as none**: with an empty array for its name a row counts, and a
reference leads to it and not to the row below. -/
theorem transform_ne_of_losesBlanks :
    let payload := Json.object [("data", .array namelessRows)]
    let payload' := Json.object [("data", .array namedRows)]
    isDefinition payload = false ∧ isDefinition payload' = false ∧
    rows? payload = some namelessRows ∧ rows? payload' = some namedRows ∧
    List.Forall₂ (Rowwise Entries.LosesBlanks) namelessRows namedRows ∧
    ∃ outcome outcome',
      (transform .usual false none none payload).result = .ok outcome ∧
      (transform .usual false none none payload').result = .ok outcome' ∧
      outcome'.definition ≠ outcome.definition ∧
      outcome.failures = [⟨"=B2", "Unknown reference: b2"⟩] ∧ outcome'.failures = [] := by
  intro payload payload'
  have hlose : List.Forall₂ (Rowwise Entries.LosesBlanks) namelessRows namedRows :=
    .cons (.row (.lose rfl .nil)) (.cons (.row (.keep _ .nil))
      (.cons (.row (.keep _ (.keep _ .nil))) .nil))
  have hpayload : isDefinition payload = false := rfl
  have hpayload' : isDefinition payload' = false := rfl
  have hrows : rows? payload = some namelessRows := rfl
  have hrows' : rows? payload' = some namedRows := rfl
  obtain ⟨outcome, values, hresult, hvalues, hlength, hfailures⟩ :=
    exists_items .usual false none none hpayload hrows
  obtain ⟨outcome', values', hresult', hvalues', hlength', hfailures'⟩ :=
    exists_items .usual false none none hpayload' hrows'
  have hthree : values.length = 3 := hlength.trans (by decide +kernel)
  have htwo : values'.length = 2 := hlength'.trans (by decide +kernel)
  refine ⟨hpayload, hpayload', hrows, hrows', hlose, outcome, outcome', hresult, hresult', ?_, ?_,
    ?_⟩
  · intro h
    rw [h, hvalues, Option.some.injEq, Json.array.injEq] at hvalues'
    rw [← hvalues', hthree] at htwo
    cases htwo
  · rw [hfailures]
    decide +kernel
  · rw [hfailures']
    decide +kernel

end AdaptiveForm
