import AdaptiveForm.Proofs.Form.Merging
import AdaptiveForm.Proofs.Form.Rows
import Mathlib.Data.List.Induction
import Mathlib.Tactic.SplitIfs

/-!
# The numbers of rows

The rows that become something are numbered one after the other from the first row below the header.
Each of them is noted under a number that is larger than all before, so the trace is a list with
these numbers in their order (`keys_foldl`), and what stands under the number of a row is what has
been built from it, `BuiltFrom`.

The other values among the rows of a payload are `Idle`.  They take no number and build nothing, so
that payloads which differ in such values only, `SameButIdle`, give the same form.
-/

namespace AdaptiveForm

open Rows

/-! ### Numbers in the trace -/

theorem Trace.insertRow_of_forall_lt {row : Nat} (built : Built) {rows : List (Nat × Built)}
    (h : ∀ entry ∈ rows, entry.1 < row) : insertRow row built rows = rows ++ [(row, built)] := by
  induction rows with
  | nil => rfl
  | cons entry rows ih =>
    obtain ⟨r, b⟩ := entry
    rw [List.forall_mem_cons] at h
    have hlt : r < row := h.1
    rw [insertRow, if_neg (by omega), if_neg (by omega), ih h.2, List.cons_append]

def Trace.keys (trace : Trace) : List Nat :=
  trace.rows.map Prod.fst

theorem Trace.keys_record {trace : Trace} {row : Nat} (built : Built)
    (h : ∀ r ∈ trace.keys, r < row) : (trace.record row built).keys = trace.keys ++ [row] := by
  rw [keys, record, insertRow_of_forall_lt built fun entry hentry =>
    h _ (List.mem_map_of_mem hentry), List.map_append]
  rfl

variable (settings : Settings)

theorem Pass.trace_addRow (pass : Pass) (row : Entries) :
    ∃ built, (pass.addRow settings row).trace = pass.trace.record pass.row built := by
  rw [addRow]
  split_ifs
  · exact ⟨_, rfl⟩
  · exact ⟨_, rfl⟩

/-- **The rows are numbered one after the other.** -/
theorem keys_foldl (rows : List Entries) :
    (rows.foldl (Pass.addRow settings) .initial).trace.keys =
      List.range' Trace.firstRow rows.length := by
  induction rows using List.reverseRecOn with
  | nil => rfl
  | append_singleton rows row ih =>
    have hrow := (takes_foldl settings rows).row
    rw [List.foldl_append, List.foldl_cons, List.foldl_nil]
    obtain ⟨built, hbuilt⟩ := (rows.foldl (Pass.addRow settings) .initial).trace_addRow settings row
    have hlt : ∀ r ∈ (rows.foldl (Pass.addRow settings) .initial).trace.keys,
        r < (rows.foldl (Pass.addRow settings) .initial).row := by
      intro r hr
      rw [ih, List.mem_range'_1] at hr
      rw [hrow]
      exact hr.2
    rw [hbuilt, Trace.keys_record built hlt, ih, hrow, List.length_append, List.length_singleton,
      List.range'_concat, Nat.one_mul]

/-! ### What a row was built as -/

/-- What has been built from a row behind earlier ones, as a pass holds it: a field with the number
of fields before it, which is the row finished and without its parent; or a property by its name. -/
def BuiltFrom (earlier : List Entries) (row : Entries) (pass : Pass) : Built → Prop
  | .field id => isField settings row = true ∧ id = (fieldRows settings earlier).length ∧
    pass.tree.field? id = some ((finished settings row).erase "parent")
  | .property name => isField settings row = false ∧
    name = Properties.nameOf (normalizeRow settings row) ∧
    name ∈ pass.properties.defaults.keys

variable {settings} {rows : List Entries}

/-- The field of a row has as many fields before it as there are rows of fields before it. -/
theorem getElem?_fieldRows {k : Nat} {row : Entries} (h : rows[k]? = some row)
    (hfield : isField settings row = true) :
    (fieldRows settings rows)[(fieldRows settings (rows.take k)).length]? = some row := by
  obtain ⟨hlt, rfl⟩ := List.getElem?_eq_some_iff.mp h
  have hsplit : fieldRows settings rows = fieldRows settings (rows.take k) ++
      rows[k] :: fieldRows settings (rows.drop (k + 1)) := by
    conv_lhs => rw [← List.take_append_drop k rows, List.drop_eq_getElem_cons hlt]
    rw [fieldRows, List.filter_append, List.filter_cons, if_pos hfield]
    rfl
  rw [hsplit, List.getElem?_append_right (Nat.le_refl _), Nat.sub_self]
  rfl

/-- **Under the number of a row stands what has been built from it.** -/
theorem exists_builtFrom {k : Nat} {row : Entries} (h : rows[k]? = some row) :
    ∃ built, (rows.foldl (Pass.addRow settings) .initial).trace.get? (Trace.firstRow + k) =
        some built ∧
      BuiltFrom settings (rows.take k) row (rows.foldl (Pass.addRow settings) .initial) built := by
  have htakes := takes_foldl settings rows
  have hbuilt := htakes.trace (Trace.firstRow + k)
  rw [if_pos (Nat.le_add_right _ _), Nat.add_sub_cancel_left, built?, h, Option.map_some] at hbuilt
  refine ⟨_, hbuilt, ?_⟩
  split_ifs with hfield
  · refine ⟨hfield, rfl, ?_⟩
    rw [htakes.tree, (Tree.lists_build _).fields, field_additions, getElem?_fieldRows h hfield,
      Option.map_some]
  · rw [Bool.not_eq_true] at hfield
    refine ⟨hfield, rfl, ?_⟩
    rw [Properties.properties_foldl, Properties.keys_ofRows, List.mem_eraseDups]
    refine List.mem_map_of_mem (List.mem_filter.mpr ⟨?_, ?_⟩)
    · exact List.mem_map_of_mem (List.mem_of_getElem? h)
    · simpa [isField] using hfield

/-! ### Idle rows -/

/-- The value becomes nothing: it is no object, or an object without a name. -/
def Idle (value : Json) : Prop :=
  ∀ row, value.asObject? = some row → isEligible row = false

inductive SameButIdle : List Json → List Json → Prop
  | nil : SameButIdle [] []
  | keep {values values' : List Json} (value : Json) (h : SameButIdle values values') :
      SameButIdle (value :: values) (value :: values')
  | insert {values values' : List Json} {value : Json} (hidle : Idle value)
      (h : SameButIdle values values') : SameButIdle values (value :: values')
  | delete {values values' : List Json} {value : Json} (hidle : Idle value)
      (h : SameButIdle values values') : SameButIdle (value :: values) values'

theorem eligibleRows_cons (value : Json) (values : List Json) :
    eligibleRows (value :: values) =
      (value.asObject?.filter isEligible).toList ++ eligibleRows values := by
  rw [eligibleRows, eligibleRows, List.filterMap_cons]
  cases value.asObject? with
  | none => rfl
  | some row =>
    rw [List.filter_cons, Option.filter_some]
    split_ifs <;> rfl

theorem Idle.eligibleRows_cons {value : Json} (h : Idle value) (values : List Json) :
    eligibleRows (value :: values) = eligibleRows values := by
  have hnone : value.asObject?.filter isEligible = none := by
    rw [Option.filter_eq_none_iff]
    intro row hrow
    simp [h row hrow]
  rw [AdaptiveForm.eligibleRows_cons, hnone]
  rfl

theorem SameButIdle.eligibleRows_eq {values values' : List Json} (h : SameButIdle values values') :
    eligibleRows values' = eligibleRows values := by
  induction h with
  | nil => rfl
  | keep value _ ih => rw [eligibleRows_cons, eligibleRows_cons, ih]
  | insert hidle _ ih => rw [hidle.eligibleRows_cons, ih]
  | delete hidle _ ih => rw [hidle.eligibleRows_cons, ih]

theorem SameButIdle.buildForm_eq {values values' : List Json} (h : SameButIdle values values')
    (settings : Settings) (validate : Bool) (sourceId : Option String)
    (metadata : Option Entries) : buildForm settings validate sourceId metadata values' =
      buildForm settings validate sourceId metadata values := by
  have hpass : Pass.ofRows settings values' = Pass.ofRows settings values := by
    rw [Pass.ofRows, Pass.ofRows, h.eligibleRows_eq]
  simp only [buildForm, hpass]

/-- **Row numbers follow the rows that become something, and no others.** After the row pass the
trace has one number for each of them, from the first row below the header on and without a gap, and
under the number of a row stands what has been built from it; the numbers fit into 32 bits if there
are not too many rows.  Any idle values, put in or taken out at any positions, change neither the
form definition nor the failures. -/
theorem transform_numbers_rows (settings : Settings) (validate : Bool) (sourceId : Option String)
    (metadata : Option Entries) {payload : Json} {values : List Json}
    (hpayload : isDefinition payload = false) (hvalues : rows? payload = some values) :
    let pass := Pass.ofRows settings values
    let eligible := eligibleRows values
    pass.trace.keys = List.range' Trace.firstRow eligible.length ∧
    (∀ k row, eligible[k]? = some row → ∃ built,
      pass.trace.get? (Trace.firstRow + k) = some built ∧
        BuiltFrom settings (eligible.take k) row pass built) ∧
    (eligible.length < UInt32.size - 2 → pass.row < UInt32.size) ∧
    ∃ outcome, (transform settings validate sourceId metadata payload).result = .ok outcome ∧
      ∀ payload' values', isDefinition payload' = false → rows? payload' = some values' →
        SameButIdle values values' → ∃ outcome',
          (transform settings validate sourceId metadata payload').result = .ok outcome' ∧
          outcome'.definition = outcome.definition ∧ outcome'.failures = outcome.failures := by
  intro pass eligible
  have hrow : pass.row = Trace.firstRow + eligible.length := (takes_ofRows settings values).row
  have htransform : ∀ {payload values}, isDefinition payload = false →
      rows? payload = some values →
      (transform settings validate sourceId metadata payload).result =
        .ok ⟨(buildForm settings validate sourceId metadata values).definition.toJson,
          some payload, (buildForm settings validate sourceId metadata values).failures⟩ := by
    intro payload values hpayload hvalues
    rw [transform, hpayload, hvalues]
    rfl
  refine ⟨keys_foldl settings eligible, fun k row hget => exists_builtFrom hget, ?_, _,
    htransform hpayload hvalues, ?_⟩
  · intro hsize
    rw [hrow, Trace.firstRow]
    omega
  · intro payload' values' hpayload' hvalues' hsame
    refine ⟨_, htransform hpayload' hvalues', ?_, ?_⟩
    · rw [hsame.buildForm_eq]
    · rw [hsame.buildForm_eq]

def rateRow : Entries := [("name", .string "rate"), ("fieldType", .string "property")]

def priceRow : Entries := [("name", .string "price"), ("rules.value", .string "=A2")]

/-- Two rows, and the same with a text and a row without a name among them. -/
theorem transform_numbers_rows_price :
    let values := [Json.object rateRow, Json.object priceRow]
    let values' := [Json.string "prices", Json.object rateRow,
      Json.object [("Label", .string "no name")], Json.object priceRow]
    let payload := Json.object [("data", .array values)]
    let payload' := Json.object [("data", .array values')]
    let pass := Pass.ofRows .usual values
    isDefinition payload = false ∧ rows? payload = some values ∧ SameButIdle values values' ∧
    pass.trace.keys = [2, 3] ∧
    (∃ built, pass.trace.get? 3 = some built ∧ BuiltFrom .usual [rateRow] priceRow pass built) ∧
    ∃ outcome outcome', (transform .usual true none none payload).result = .ok outcome ∧
      (transform .usual true none none payload').result = .ok outcome' ∧
      outcome'.definition = outcome.definition ∧ outcome'.failures = outcome.failures := by
  intro values values' payload payload' pass
  have hpayload : isDefinition payload = false := rfl
  have hvalues : rows? payload = some values := rfl
  have hsame : SameButIdle values values' := by
    refine .insert ?_ (.keep _ (.insert ?_ (.keep _ .nil)))
    · rintro row ⟨⟩
    · rintro row ⟨⟩
      rfl
  have heligible : eligibleRows values = [rateRow, priceRow] := rfl
  obtain ⟨hkeys, hbuilt, -, outcome, hresult, hother⟩ :=
    transform_numbers_rows .usual true none none hpayload hvalues
  rw [heligible] at hkeys hbuilt
  exact ⟨hpayload, hvalues, hsame, hkeys, hbuilt 1 priceRow rfl, outcome,
    (hother payload' values' rfl rfl hsame).imp fun _ h => ⟨hresult, h⟩⟩

end AdaptiveForm
