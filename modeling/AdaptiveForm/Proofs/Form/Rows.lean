import AdaptiveForm.Form.Transform
import AdaptiveForm.Proofs.Field.Attribute
import AdaptiveForm.Proofs.Form.Listing

/-!
# What the rows build

The rows are taken one after the other, and five things change on the way: the tree, the panels by
name, the trace, the queue and the number of the next row.  Each of them is told here from the rows
alone: the tree is built from one addition for each row that becomes a field (`additions`), into the
last panel before it that has the name of its parent (`lastPanel?`).

`Takes` says that a pass holds what some rows build.  `Takes.addRow` is the step for one more row,
and `takes_ofRows` the whole run.
-/

namespace AdaptiveForm

namespace Rows

variable (settings : Settings)

/-- The field that a row is finished as, before it is attached to its panel. -/
def finished (row : Entries) : Field :=
  (normalizeRow settings row).build settings

/-- Whether a row becomes a field; otherwise it becomes a property. -/
def isField (row : Entries) : Bool :=
  !Properties.isProperty (normalizeRow settings row)

def fieldRows (rows : List Entries) : List Entries :=
  rows.filter (isField settings)

def panelName? (row : Entries) : Option String :=
  Pass.panelName? (normalizeRow settings row)

def parentName? (row : Entries) : Option String :=
  ((finished settings row).get? "parent").bind Json.key?

variable (rows : List Entries)

def lastPanel? (n : Nat) (name : String) : Option Nat :=
  ((List.range n).filter fun j => rows[j]?.bind (panelName? settings) = some name).getLast?

/-- The row to whose field the field of the `i`-th row belongs: the last panel of its parent's name,
or else the last panel that has taken the name of the form. -/
def owner? (i : Nat) : Option Nat :=
  ((rows[i]?.bind (parentName? settings)).bind (lastPanel? settings rows i)).or
    (lastPanel? settings rows i Panels.rootName)

def additions : List Addition :=
  rows.mapIdx fun i row =>
    ⟨.ofOwner (owner? settings rows i), (finished settings row).erase "parent"⟩

def built? (k : Nat) : Option Built :=
  rows[k]?.map fun row =>
    if isField settings row then .field (fieldRows settings (rows.take k)).length
    else .property (Properties.nameOf (normalizeRow settings row))

def formulaRows : List Nat :=
  (List.range rows.length).filter fun i =>
    rows[i]?.any fun row => (finished settings row).hasFormula

variable {settings rows}

/-! ### One more row -/

variable (row : Entries)

theorem fieldRows_append (h : isField settings row = true) :
    fieldRows settings (rows ++ [row]) = fieldRows settings rows ++ [row] := by
  rw [fieldRows, List.filter_append, List.filter_cons, h]
  rfl

theorem fieldRows_append_of_property (h : isField settings row = false) :
    fieldRows settings (rows ++ [row]) = fieldRows settings rows := by
  rw [fieldRows, List.filter_append, List.filter_cons, h]
  exact List.append_nil _

theorem lastPanel?_append (later : List Entries) {n : Nat} (h : n ≤ rows.length) (name : String) :
    lastPanel? settings (rows ++ later) n name = lastPanel? settings rows n name := by
  rw [lastPanel?, lastPanel?]
  congr 1
  apply List.filter_congr
  intro j hj
  rw [List.getElem?_append_left (Nat.lt_of_lt_of_le (List.mem_range.mp hj) h)]

/-- A row that is a panel takes its name over. -/
theorem lastPanel?_succ (n : Nat) (name : String) : lastPanel? settings rows (n + 1) name =
    if rows[n]?.bind (panelName? settings) = some name then some n
    else lastPanel? settings rows n name := by
  rw [lastPanel?, List.range_succ, List.filter_append, List.filter_cons, List.filter_nil]
  by_cases h : rows[n]?.bind (panelName? settings) = some name
  · rw [if_pos h, if_pos (decide_eq_true h), List.getLast?_concat]
  · rw [if_neg h, if_neg (by simpa using h), List.append_nil, lastPanel?]

theorem lastPanel?_eq_none_iff {n : Nat} {name : String} :
    lastPanel? settings rows n name = none ↔
      ∀ k < n, rows[k]?.bind (panelName? settings) ≠ some name := by
  rw [lastPanel?, List.getLast?_eq_none_iff, List.filter_eq_nil_iff]
  simp only [List.mem_range, decide_eq_true_eq, ne_eq]

theorem lastPanel?_eq_some_iff {n j : Nat} {name : String} :
    lastPanel? settings rows n name = some j ↔
      j < n ∧ rows[j]?.bind (panelName? settings) = some name ∧
        ∀ k, j < k → k < n → rows[k]?.bind (panelName? settings) ≠ some name := by
  induction n with
  | zero => simp [lastPanel?]
  | succ n ih =>
    rw [lastPanel?_succ]
    split_ifs with hn
    · constructor
      · rintro ⟨⟩
        exact ⟨Nat.lt_succ_self _, hn, fun k hj hk => absurd hk (by omega)⟩
      · rintro ⟨hj, -, hafter⟩
        by_contra hne
        have hjn : j ≠ n := fun h => hne (congrArg some h.symm)
        exact hafter n (by omega) (Nat.lt_succ_self n) hn
    · rw [ih]
      constructor
      · rintro ⟨hj, hname, hafter⟩
        refine ⟨Nat.lt_succ_of_lt hj, hname, fun k hjk hk => ?_⟩
        rcases Nat.lt_succ_iff_lt_or_eq.mp hk with hk | rfl
        · exact hafter k hjk hk
        · exact hn
      · rintro ⟨hj, hname, hafter⟩
        rcases Nat.lt_succ_iff_lt_or_eq.mp hj with hj | rfl
        · exact ⟨hj, hname, fun k hjk hk => hafter k hjk (Nat.lt_succ_of_lt hk)⟩
        · exact absurd hname hn

theorem lastPanel?_lt {n j : Nat} {name : String} (h : lastPanel? settings rows n name = some j) :
    j < n :=
  (lastPanel?_eq_some_iff.mp h).1

theorem owner?_append {i : Nat} (h : i < rows.length) :
    owner? settings (rows ++ [row]) i = owner? settings rows i := by
  have hpanel : lastPanel? settings (rows ++ [row]) i = lastPanel? settings rows i :=
    funext (lastPanel?_append [row] (Nat.le_of_lt h))
  rw [owner?, owner?, List.getElem?_append_left h, hpanel]

theorem owner?_lt {i j : Nat} (h : owner? settings rows i = some j) : j < i := by
  rw [owner?, Option.or_eq_some_iff] at h
  rcases h with h | ⟨-, h⟩
  · obtain ⟨name, -, hpanel⟩ := Option.bind_eq_some_iff.mp h
    exact lastPanel?_lt hpanel
  · exact lastPanel?_lt h

theorem additions_append : additions settings (rows ++ [row]) = additions settings rows ++
    [⟨.ofOwner (owner? settings (rows ++ [row]) rows.length),
      (finished settings row).erase "parent"⟩] := by
  rw [additions, List.mapIdx_concat, additions]
  congr 1
  apply List.mapIdx_eq_mapIdx_iff.mpr
  intro i hi
  rw [owner?_append row hi]

theorem built?_append (k : Nat) : built? settings (rows ++ [row]) k =
    if k = rows.length then some (if isField settings row
      then .field (fieldRows settings rows).length
      else .property (Properties.nameOf (normalizeRow settings row)))
    else built? settings rows k := by
  rw [built?, built?]
  split_ifs with hk hrow
  · rw [hk, List.getElem?_concat_length, List.take_left, Option.map_some, if_pos hrow]
  · rw [hk, List.getElem?_concat_length, List.take_left, Option.map_some, if_neg hrow]
  · by_cases hlt : k < rows.length
    · rw [List.getElem?_append_left hlt, List.take_append_of_le_length (Nat.le_of_lt hlt)]
    · rw [List.getElem?_eq_none (by simp; omega), List.getElem?_eq_none (by omega)]
      rfl

theorem formulaRows_append : formulaRows settings (rows ++ [row]) = formulaRows settings rows ++
    if (finished settings row).hasFormula then [rows.length] else [] := by
  rw [formulaRows, List.length_append, List.length_singleton, List.range_succ, List.filter_append,
    List.filter_cons, List.getElem?_concat_length, Option.any_some, formulaRows]
  congr 1
  apply List.filter_congr
  intro i hi
  rw [List.getElem?_append_left (List.mem_range.mp hi)]

theorem mem_formulaRows {i : Nat} : i ∈ formulaRows settings rows ↔
    ∃ row, rows[i]? = some row ∧ (finished settings row).hasFormula = true := by
  rw [formulaRows, List.mem_filter, List.mem_range, Option.any_eq_true, and_iff_right_iff_imp]
  rintro ⟨row, hrow, -⟩
  exact (List.getElem?_eq_some_iff.mp hrow).1

/-! ### The tree of some rows -/

theorem length_additions : (additions settings rows).length = rows.length :=
  List.length_mapIdx

theorem getElem?_additions (i : Nat) : (additions settings rows)[i]? = rows[i]?.map fun row =>
    ⟨.ofOwner (owner? settings rows i), (finished settings row).erase "parent"⟩ :=
  List.getElem?_mapIdx

/-- What is added for a row is its finished field, less the parent. -/
theorem field_additions (i : Nat) : (additions settings rows)[i]?.map Addition.field =
    rows[i]?.map fun row => (finished settings row).erase "parent" := by
  rw [getElem?_additions, Option.map_map]
  rfl

/-- A row's panel is there before the row. -/
theorem ownerAt_additions {i : Nat} (h : i < rows.length) :
    ownerAt (additions settings rows) i = owner? settings rows i := by
  rw [ownerAt, getElem?_additions, List.getElem?_eq_getElem h]
  cases howner : owner? settings rows i with
  | none => rfl
  | some j => exact if_pos (owner?_lt howner)

end Rows

open Rows

/-! ### What a pass holds -/

theorem Trace.get?_record (trace : Trace) (row : Nat) (built : Built) (r : Nat) :
    (trace.record row built).get? r = if r = row then some built else trace.get? r := by
  have hinsert : ∀ rows : List (Nat × Built), (insertRow row built rows).lookup r =
      if r = row then some built else rows.lookup r := by
    intro rows
    induction rows with
    | nil => rw [insertRow, lookup_cons_ite]
    | cons entry rows ih =>
      obtain ⟨k, b⟩ := entry
      rw [insertRow]
      by_cases hlt : row < k
      · rw [if_pos hlt, lookup_cons_ite]
      · rw [if_neg hlt]
        by_cases heq : row = k
        · rw [if_pos heq, lookup_cons_ite, lookup_cons_ite, heq]
          split_ifs <;> rfl
        · rw [if_neg heq, lookup_cons_ite, lookup_cons_ite, ih]
          split_ifs with hk hr
          · exact absurd (hr.symm.trans hk) heq
          · rfl
          · rfl
          · rfl
  exact hinsert trace.rows

theorem Panels.get?_register (panels : Panels) (name : String) (id : Nat) (other : String) :
    (panels.register name id).get? other =
      if other = name then some (.panel id) else panels.get? other := by
  rw [register, get?, lookup_cons_ite]
  rfl

def Rows.container? (settings : Settings) (rows : List Entries) (name : String) :
    Option Container :=
  ((lastPanel? settings rows rows.length name).map Container.panel).or
    (if name = Panels.rootName then some .root else none)

/-- A pass that has taken some rows and nothing else. -/
structure Takes (settings : Settings) (rows : List Entries) (pass : Pass) : Prop where
  tree : pass.tree = Tree.build (additions settings (fieldRows settings rows))
  panels : ∀ name, pass.panels.get? name = container? settings (fieldRows settings rows) name
  trace : ∀ r, pass.trace.get? r =
    if Trace.firstRow ≤ r then built? settings rows (r - Trace.firstRow) else none
  queue : pass.queue = formulaRows settings (fieldRows settings rows)
  row : pass.row = Trace.firstRow + rows.length

variable {settings : Settings} {rows : List Entries} {pass : Pass}

theorem takes_initial (settings : Settings) : Takes settings [] .initial where
  tree := rfl
  panels name := by
    rw [Pass.initial, Panels.initial, Panels.get?, lookup_cons_ite, List.lookup_nil]
    rfl
  trace r := by
    rw [built?, List.getElem?_nil, Option.map_none, ite_self]
    rfl
  queue := rfl
  row := rfl

theorem Takes.resolve (h : Takes settings rows pass) (row : Entries) :
    let fields := fieldRows settings rows
    pass.panels.resolve (parentName? settings row) =
      .ofOwner (owner? settings (fields ++ [row]) fields.length) := by
  intro fields
  have hroot := h.panels Panels.rootName
  rw [container?, if_pos rfl] at hroot
  have hpanel : lastPanel? settings (fields ++ [row]) fields.length =
      lastPanel? settings fields fields.length :=
    funext (lastPanel?_append [row] (Nat.le_refl fields.length))
  rw [owner?, List.getElem?_concat_length, hpanel, Option.bind_some, Panels.resolve]
  cases parentName? settings row with
  | none =>
    rw [Option.getD_none, hroot, Option.bind_none, Option.none_or]
    cases lastPanel? settings fields fields.length Panels.rootName <;> rfl
  | some name =>
    rw [Option.getD_some, h.panels, container?, Option.bind_some, hroot]
    cases hname : lastPanel? settings fields fields.length name with
    | some j => rfl
    | none =>
      by_cases hr : name = Panels.rootName
      · subst hr
        rw [hname]
        rfl
      · rw [if_neg hr]
        cases lastPanel? settings fields fields.length Panels.rootName <;> rfl

theorem Takes.trace_record (h : Takes settings rows pass) (row : Entries) {built : Built}
    (hbuilt : built = if isField settings row then .field (fieldRows settings rows).length
      else .property (Properties.nameOf (normalizeRow settings row))) (r : Nat) :
    (pass.trace.record pass.row built).get? r = if Trace.firstRow ≤ r
      then built? settings (rows ++ [row]) (r - Trace.firstRow) else none := by
  rw [Trace.get?_record, h.row, h.trace, built?_append, ← hbuilt]
  by_cases hr : r = Trace.firstRow + rows.length
  · rw [if_pos hr, if_pos (by omega), if_pos (by omega)]
  · rw [if_neg hr]
    split_ifs with hle hk
    · omega
    · rfl
    · rfl

theorem Takes.addProperty (h : Takes settings rows pass) {row : Entries}
    (hrow : isField settings row = false) :
    Takes settings (rows ++ [row]) (pass.addProperty (normalizeRow settings row)) where
  tree := by
    rw [fieldRows_append_of_property row hrow]
    exact h.tree
  panels name := by
    rw [fieldRows_append_of_property row hrow]
    exact h.panels name
  trace := h.trace_record row (by rw [hrow]; rfl)
  queue := by
    rw [fieldRows_append_of_property row hrow]
    exact h.queue
  row := by
    rw [Pass.addProperty, h.row, List.length_append, List.length_singleton, Nat.add_assoc]

theorem Takes.addField (h : Takes settings rows pass) {row : Entries}
    (hrow : isField settings row = true) :
    Takes settings (rows ++ [row]) (pass.addField settings (normalizeRow settings row)) := by
  have hfields : fieldRows settings (rows ++ [row]) = fieldRows settings rows ++ [row] :=
    fieldRows_append row hrow
  have hsize : pass.tree.size = (fieldRows settings rows).length := by
    rw [h.tree, (Tree.lists_build _).size, length_additions]
  exact {
    tree := by
      rw [hfields, additions_append, Tree.build_append, ← h.tree, ← h.resolve row]
      rfl
    panels := by
      intro name
      rw [hfields, container?, List.length_append, List.length_singleton, lastPanel?_succ,
        List.getElem?_concat_length, lastPanel?_append [row] (Nat.le_refl _), Option.bind_some]
      have hname : panelName? settings row = Pass.panelName? (normalizeRow settings row) := rfl
      rw [hname]
      cases hp : Pass.panelName? (normalizeRow settings row) with
      | none =>
        rw [if_neg (by simp)]
        simp only [Pass.addField, hp]
        exact h.panels name
      | some panel =>
        simp only [Pass.addField, hp, Panels.get?_register, Option.some.injEq]
        by_cases hn : name = panel
        · rw [if_pos hn, if_pos hn.symm]
          rw [Panels.attach, hsize]
          rfl
        · rw [if_neg hn, if_neg (Ne.symm hn)]
          exact h.panels name
    trace := by
      refine h.trace_record row ?_
      rw [if_pos hrow, ← hsize]
      rfl
    queue := by
      rw [hfields, formulaRows_append, ← h.queue, ← hsize]
      have hfield : (normalizeRow settings row).build settings = finished settings row := rfl
      simp only [Pass.addField, Panels.attach]
      rw [hfield]
      split_ifs
      · rfl
      · exact (List.append_nil _).symm
    row := by
      rw [Pass.addField, h.row, List.length_append, List.length_singleton, Nat.add_assoc] }

/-- **One more row** is built into what the pass holds. -/
theorem Takes.addRow (h : Takes settings rows pass) (row : Entries) :
    Takes settings (rows ++ [row]) (pass.addRow settings row) := by
  simp only [Pass.addRow]
  split_ifs with hp
  · exact h.addProperty (by rw [isField, hp]; rfl)
  · exact h.addField (by rw [isField, Bool.eq_false_iff.mpr hp]; rfl)

/-- **After some rows a pass holds what they build.** -/
theorem takes_foldl (settings : Settings) (rows : List Entries) :
    Takes settings rows (rows.foldl (Pass.addRow settings) .initial) := by
  induction rows using List.reverseRecOn with
  | nil => exact takes_initial settings
  | append_singleton rows row ih =>
    rw [List.foldl_append]
    exact ih.addRow row

/-- After all rows a pass holds what the eligible ones build. -/
theorem takes_ofRows (settings : Settings) (rows : List Json) :
    Takes settings (eligibleRows rows) (Pass.ofRows settings rows) :=
  takes_foldl settings (eligibleRows rows)

end AdaptiveForm
