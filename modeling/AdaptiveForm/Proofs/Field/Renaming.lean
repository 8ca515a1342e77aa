import AdaptiveForm.Field.Mapping
import AdaptiveForm.Proofs.Field.Attribute
import Mathlib.Data.List.Basic
import Mathlib.Data.List.Induction

/-!
# What renaming columns comes to

Columns are renamed one after the other, in the order of the table.  If no attribute that the table
leads to is a column itself, no rename takes up what another one has moved, and the outcome can be
told from the table and the field alone: a column that holds a yes is gone, and an attribute has the
value of the last such column that means it, `giver?`.

`Renamed` says so of a table, `Renamed.concat` is the step for one more rename at its end, and
`renamed_normalizeNames` the whole table.  A column that occurs in the table again means what its
first occurrence says; when it comes up for the second time it holds no yes any more.
-/

namespace AdaptiveForm

namespace Entries

/-- The keys that both have stand in the same order. -/
def SameOrder (entries entries' : Entries) : Prop :=
  entries'.keys.filter (· ∈ entries.keys) = entries.keys.filter (· ∈ entries'.keys)

variable {entries entries' : Entries}

theorem SameOrder.erase (h : SameOrder entries entries') (key : String) :
    SameOrder entries (entries'.erase key) := by
  rw [SameOrder, keys_erase, List.filter_comm, h, List.filter_filter]
  apply List.filter_congr
  intro k _
  by_cases hk : k = key <;> simp [hk]

theorem SameOrder.insert (h : SameOrder entries entries') {key : String}
    (hkey : key ∈ entries.keys → key ∈ entries'.keys) (value : Json) :
    SameOrder entries (entries'.insert key value) := by
  rw [SameOrder, keys_insert_eq]
  split_ifs with hmem
  · exact h
  · have hnew : key ∉ entries.keys := fun hin => hmem (hkey hin)
    rw [List.filter_append, h, List.filter_cons_of_neg (by simpa using hnew), List.filter_nil,
      List.append_nil]
    apply List.filter_congr
    intro k hk
    have hne : k ≠ key := fun heq => hnew (heq ▸ hk)
    simp [hne]

end Entries

namespace Mappings

/-- The columns of the table, each where it first occurs. -/
def columns (mappings : Mappings) : List String :=
  (mappings.names.map Rename.source).eraseDups

def columnsFor (mappings : Mappings) (name : String) : List String :=
  mappings.columns.filter fun column => decide (mappings.canonicalName? column = some name)

/-- No attribute that the table leads to is a column itself. -/
def Direct (mappings : Mappings) : Prop :=
  ∀ rename ∈ mappings.names, ∀ rename' ∈ mappings.names, rename.target ≠ rename'.source

instance (mappings : Mappings) : Decidable mappings.Direct :=
  inferInstanceAs (Decidable (∀ rename ∈ mappings.names, ∀ rename' ∈ mappings.names,
    rename.target ≠ rename'.source))

def concat (mappings : Mappings) (rename : Rename) : Mappings :=
  { mappings with names := mappings.names ++ [rename] }

variable {mappings : Mappings} {rename : Rename} {column name : String}

theorem mem_columns : column ∈ mappings.columns ↔
    ∃ rename ∈ mappings.names, rename.source = column := by
  rw [columns, List.mem_eraseDups, List.mem_map]

theorem mem_columns_concat : column ∈ (mappings.concat rename).columns ↔
    column ∈ mappings.columns ∨ column = rename.source := by
  rw [mem_columns, mem_columns]
  simp [concat, or_and_right, exists_or, eq_comm]

theorem Direct.target_notMem (h : mappings.Direct) (hmem : rename ∈ mappings.names) :
    rename.target ∉ mappings.columns := by
  intro hcolumn
  obtain ⟨rename', hmem', heq⟩ := mem_columns.mp hcolumn
  exact h rename hmem rename' hmem' heq.symm

theorem mem_columns_iff : column ∈ mappings.columns ↔
    ∃ name, mappings.canonicalName? column = some name := by
  rw [mem_columns, canonicalName?]
  cases hfound : mappings.names.find? fun rename => rename.source = column with
  | none => simpa using List.find?_eq_none.mp hfound
  | some rename =>
    have hsource := List.find?_some hfound
    refine iff_of_true ⟨rename, List.mem_of_find?_eq_some hfound, ?_⟩ ⟨rename.target, rfl⟩
    exact of_decide_eq_true hsource

theorem canonicalName?_concat : (mappings.concat rename).canonicalName? column =
    (mappings.canonicalName? column).or
      (if rename.source = column then some rename.target else none) := by
  rw [canonicalName?, concat, List.find?_append, canonicalName?]
  cases mappings.names.find? fun rename => rename.source = column with
  | some found => rfl
  | none =>
    rw [List.find?_singleton]
    split_ifs <;> simp_all

theorem columns_concat : (mappings.concat rename).columns =
    if rename.source ∈ mappings.columns then mappings.columns
    else mappings.columns ++ [rename.source] := by
  rw [columns, concat, List.map_append, List.map_singleton, eraseDups_concat]
  simp only [columns, List.mem_eraseDups]

/-- What a column means is settled by its first occurrence. -/
theorem canonicalName?_concat_of_mem (h : column ∈ mappings.columns) :
    (mappings.concat rename).canonicalName? column = mappings.canonicalName? column := by
  obtain ⟨name, hname⟩ := mem_columns_iff.mp h
  rw [canonicalName?_concat, hname, Option.some_or]

theorem columnsFor_concat : (mappings.concat rename).columnsFor name =
    mappings.columnsFor name ++
      if rename.source ∉ mappings.columns ∧ rename.target = name then [rename.source] else [] := by
  have hold : mappings.columns.filter
        (fun column => decide ((mappings.concat rename).canonicalName? column = some name)) =
      mappings.columnsFor name := by
    apply List.filter_congr
    intro column hcolumn
    rw [canonicalName?_concat_of_mem hcolumn]
  rw [columnsFor, columns_concat]
  by_cases hmem : rename.source ∈ mappings.columns
  · rw [if_pos hmem, hold, if_neg fun h => h.1 hmem, List.append_nil]
  · have hnone : mappings.canonicalName? rename.source = none := by
      rw [Option.eq_none_iff_forall_ne_some]
      exact fun name hname => hmem (mem_columns_iff.mpr ⟨name, hname⟩)
    have hnew : (mappings.concat rename).canonicalName? rename.source = some rename.target := by
      rw [canonicalName?_concat, hnone, Option.none_or, if_pos rfl]
    rw [if_neg hmem, List.filter_append, hold, List.filter_singleton, hnew]
    by_cases hname : rename.target = name <;> simp [hname, hmem]

theorem columnsFor_eq_nil (h : ∀ rename ∈ mappings.names, rename.target ≠ name) :
    mappings.columnsFor name = [] := by
  rw [columnsFor, List.filter_eq_nil_iff]
  intro column _ hmeans
  obtain ⟨rename, hfound, htarget⟩ := Option.map_eq_some_iff.mp (of_decide_eq_true hmeans)
  exact h rename (List.mem_of_find?_eq_some hfound) htarget

end Mappings

namespace Field

def saysYes (field : Field) (column : String) : Bool :=
  (field.get? column).any Json.isTruthy

/-- The column that gives an attribute its value: of those that mean it and hold a yes the last one
in the order of the table. -/
def giver? (mappings : Mappings) (field : Field) (name : String) : Option String :=
  ((mappings.columnsFor name).filter field.saysYes).getLast?

variable {mappings : Mappings} {rename : Rename} {field field' : Field} {column name : String}

theorem saysYes_iff : field.saysYes column = true ↔
    ∃ value, field.get? column = some value ∧ value.isTruthy = true := by
  rw [saysYes]
  cases field.get? column <;> simp

theorem saysYes_of_giver? (h : giver? mappings field name = some column) :
    field.saysYes column = true :=
  (List.mem_filter.mp (List.mem_of_getLast? h)).2

theorem giver?_eq_none (h : ∀ rename ∈ mappings.names, rename.target ≠ name) :
    giver? mappings field name = none := by
  rw [giver?, Mappings.columnsFor_eq_nil h]
  rfl

theorem giver?_concat : giver? (mappings.concat rename) field name =
    if rename.source ∉ mappings.columns ∧ rename.target = name ∧ field.saysYes rename.source = true
    then some rename.source else giver? mappings field name := by
  rw [giver?, Mappings.columnsFor_concat, List.filter_append, giver?]
  by_cases hnew : rename.source ∉ mappings.columns ∧ rename.target = name
  · rw [if_pos hnew, List.filter_singleton]
    by_cases hyes : field.saysYes rename.source = true
    · rw [if_pos ⟨hnew.1, hnew.2, hyes⟩, hyes, cond_true, List.getLast?_concat]
    · rw [if_neg fun h => hyes h.2.2, Bool.eq_false_iff.mpr hyes, cond_false, List.append_nil]
  · rw [if_neg hnew, if_neg fun h => hnew ⟨h.1, h.2.1⟩, List.filter_nil, List.append_nil]

/-! ### One rename -/

theorem rename_of_not_saysYes (h : field.saysYes rename.source = false) :
    field.rename rename = field := by
  rw [Field.rename]
  split_ifs
  · rfl
  · rw [saysYes] at h
    cases hvalue : field.get? rename.source with
    | none => rfl
    | some value =>
      rw [hvalue, Option.any_some] at h
      simp only [h, Bool.false_eq_true, if_false]

theorem rename_of_isTruthy (hne : rename.source ≠ rename.target) {value : Json}
    (hvalue : field.get? rename.source = some value) (hyes : value.isTruthy = true) :
    field.rename rename =
      Entries.insert (Entries.erase field rename.source) rename.target value := by
  rw [Field.rename, if_neg hne, hvalue]
  simp only [hyes, if_true]

/-! ### A table of renames -/

/-- The second field is the first one renamed by the table: columns that hold a yes are gone, any
other attribute has the value of its giver if it has one, and the keys are in their order. -/
structure Renamed (mappings : Mappings) (field field' : Field) : Prop where
  columns : ∀ column ∈ mappings.columns,
    field'.get? column = if field.saysYes column = true then none else field.get? column
  attributes : ∀ name ∉ mappings.columns,
    field'.get? name = (giver? mappings field name).elim (field.get? name) field.get?
  order : Entries.SameOrder field field'

/-- An attribute that is no column does not get lost. -/
theorem Renamed.mem_keys (h : Renamed mappings field field') (hname : name ∉ mappings.columns)
    (hmem : name ∈ Entries.keys field) : name ∈ Entries.keys field' := by
  rw [Entries.mem_keys_iff, h.attributes name hname]
  cases hgiver : giver? mappings field name with
  | none => exact Entries.exists_get?_of_mem_keys field hmem
  | some column =>
    obtain ⟨value, hvalue, -⟩ := saysYes_iff.mp (saysYes_of_giver? hgiver)
    exact ⟨value, hvalue⟩

theorem Renamed.saysYes_eq_false (h : Renamed mappings field field')
    (hcolumn : column ∈ mappings.columns) : field'.saysYes column = false := by
  rw [saysYes, h.columns column hcolumn]
  split_ifs with hyes
  · rfl
  · exact Bool.eq_false_iff.mpr hyes

/-- A rename of a column that has been renamed before does nothing. -/
theorem Renamed.again (h : Renamed mappings field field')
    (hold : rename.source ∈ mappings.columns) : Renamed (mappings.concat rename) field field' where
  columns column hcolumn := by
    rcases Mappings.mem_columns_concat.mp hcolumn with hcolumn | rfl
    · exact h.columns column hcolumn
    · exact h.columns _ hold
  attributes name hname := by
    rw [Mappings.mem_columns_concat, not_or] at hname
    rw [giver?_concat, if_neg fun hnew => hnew.1 hold]
    exact h.attributes name hname.1
  order := h.order

theorem Renamed.stays (h : Renamed mappings field field')
    (hsource : field'.get? rename.source = field.get? rename.source)
    (hno : ¬ field.saysYes rename.source = true) :
    Renamed (mappings.concat rename) field field' where
  columns column hcolumn := by
    rcases Mappings.mem_columns_concat.mp hcolumn with hcolumn | rfl
    · exact h.columns column hcolumn
    · rw [if_neg hno, hsource]
  attributes name hname := by
    rw [Mappings.mem_columns_concat, not_or] at hname
    rw [giver?_concat, if_neg fun hnew => hno hnew.2.2]
    exact h.attributes name hname.1
  order := h.order

/-- A rename of a new column with a yes moves its value, and what it overwrites was the value of an
earlier giver. -/
theorem Renamed.moves (h : Renamed mappings field field') (hnew : rename.source ∉ mappings.columns)
    (htarget : rename.target ∉ (mappings.concat rename).columns) {value : Json}
    (hvalue : field.get? rename.source = some value) (hyes : value.isTruthy = true) :
    Renamed (mappings.concat rename) field
      (Entries.insert (Entries.erase field' rename.source) rename.target value) where
  columns column hcolumn := by
    have hne : column ≠ rename.target := fun heq => htarget (heq ▸ hcolumn)
    rw [Entries.get?_insert_of_ne _ _ hne]
    by_cases heq : column = rename.source
    · rw [heq, Entries.get?_erase_self, if_pos (saysYes_iff.mpr ⟨value, hvalue, hyes⟩)]
    · rw [Entries.get?_erase_of_ne _ heq]
      exact h.columns column ((Mappings.mem_columns_concat.mp hcolumn).resolve_right heq)
  attributes name hname := by
    rw [Mappings.mem_columns_concat, not_or] at hname
    rw [giver?_concat]
    by_cases heq : rename.target = name
    · rw [if_pos ⟨hnew, heq, saysYes_iff.mpr ⟨value, hvalue, hyes⟩⟩, ← heq,
        Entries.get?_insert_self, Option.elim_some, hvalue]
    · rw [if_neg fun hgives => heq hgives.2.1, Entries.get?_insert_of_ne _ _ (Ne.symm heq),
        Entries.get?_erase_of_ne _ hname.2]
      exact h.attributes name hname.1
  order := by
    rw [Mappings.mem_columns_concat, not_or] at htarget
    refine (h.order.erase rename.source).insert ?_ value
    intro hmem
    rw [Entries.keys_erase, List.mem_filter, bne_iff_ne]
    exact ⟨h.mem_keys htarget.1 hmem, htarget.2⟩

/-- **One more rename at the end of the table.** -/
theorem Renamed.concat (h : Renamed mappings field field')
    (hdirect : (mappings.concat rename).Direct) :
    Renamed (mappings.concat rename) field (field'.rename rename) := by
  have hlast : rename ∈ (mappings.concat rename).names := List.mem_concat_self
  by_cases hold : rename.source ∈ mappings.columns
  · rw [rename_of_not_saysYes (h.saysYes_eq_false hold)]
    exact h.again hold
  · -- no rename before leads to the column, so that it is as it was
    have hsource : field'.get? rename.source = field.get? rename.source := by
      have hnone : giver? mappings field rename.source = none :=
        giver?_eq_none fun earlier hearlier =>
          hdirect earlier (List.mem_append_left _ hearlier) rename hlast
      rw [h.attributes _ hold, hnone, Option.elim_none]
    by_cases hyes : field.saysYes rename.source = true
    · obtain ⟨value, hvalue, htruthy⟩ := saysYes_iff.mp hyes
      have hne := (hdirect rename hlast rename hlast).symm
      rw [rename_of_isTruthy hne (hsource.trans hvalue) htruthy]
      exact h.moves hold (hdirect.target_notMem hlast) hvalue htruthy
    · have hno : field'.saysYes rename.source = false := by
        rw [saysYes, hsource]
        exact Bool.eq_false_iff.mpr hyes
      rw [rename_of_not_saysYes hno]
      exact h.stays hsource hyes

/-- **A field is renamed by the whole table.** -/
theorem renamed_normalizeNames (hdirect : mappings.Direct) (field : Field) :
    Renamed mappings field (field.normalizeNames mappings) := by
  obtain ⟨names, types⟩ := mappings
  induction names using List.reverseRecOn with
  | nil => exact ⟨fun _ h => absurd h List.not_mem_nil, fun _ _ => rfl, rfl⟩
  | append_singleton names rename ih =>
    have hbefore : Mappings.Direct ⟨names, types⟩ := fun r hr r' hr' =>
      hdirect r (List.mem_append_left _ hr) r' (List.mem_append_left _ hr')
    rw [normalizeNames, List.foldl_append]
    exact (ih hbefore).concat hdirect

/-- A field in which no column holds a yes is not changed. -/
theorem normalizeNames_eq_self (h : ∀ column ∈ mappings.columns, field.saysYes column = false) :
    field.normalizeNames mappings = field := by
  rw [normalizeNames]
  refine List.foldlRecOn (motive := fun field' : Field => field' = field) _ _ rfl ?_
  rintro _ rfl rename hmem
  exact rename_of_not_saysYes (h _ (Mappings.mem_columns.mpr ⟨rename, hmem, rfl⟩))

/-- **Renaming columns does what the table says.** In a table that leads from columns to attributes
which are no columns themselves, a column that holds a yes is gone and any other is unchanged; an
attribute to which the table leads has the value of the last column in the table that means it and
holds a yes, or else its own; all other attributes keep their values.  What was there before and
still is keeps its order, and renaming once more changes nothing. -/
theorem normalizeNames_follows_table (hdirect : mappings.Direct) (field : Field) :
    let renamed := field.normalizeNames mappings
    (∀ column name, mappings.canonicalName? column = some name →
      renamed.get? column = if field.saysYes column = true then none else field.get? column) ∧
    (∀ rename ∈ mappings.names, renamed.get? rename.target =
      match giver? mappings field rename.target with
      | some column => field.get? column
      | none => field.get? rename.target) ∧
    (∀ key, mappings.canonicalName? key = none → (∀ rename ∈ mappings.names, rename.target ≠ key) →
      renamed.get? key = field.get? key) ∧
    (Entries.keys renamed).filter (· ∈ Entries.keys field) =
      (Entries.keys field).filter (· ∈ Entries.keys renamed) ∧
    renamed.normalizeNames mappings = renamed := by
  intro renamed
  have h : Renamed mappings field renamed := renamed_normalizeNames hdirect field
  refine ⟨?_, ?_, ?_, h.order, normalizeNames_eq_self fun _ => h.saysYes_eq_false⟩
  · exact fun column name hname => h.columns column (Mappings.mem_columns_iff.mpr ⟨name, hname⟩)
  · intro rename hmem
    rw [h.attributes _ (hdirect.target_notMem hmem)]
    cases giver? mappings field rename.target <;> rfl
  · intro key hkey hnone
    have hcolumn : key ∉ mappings.columns := by
      rw [Mappings.mem_columns_iff, hkey]
      simp
    rw [h.attributes key hcolumn, giver?_eq_none hnone, Option.elim_none]

/-- Three columns mean the title, the last one of them is empty in the row below, and the first one
comes up again with another meaning. -/
def titleNames : Mappings where
  names := [⟨"Label", "title"⟩, ⟨"Title", "title"⟩, ⟨"Label", "caption"⟩, ⟨"Heading", "title"⟩]
  types := []

def titleRow : Field := [
  ("title", .string "old"),
  ("Label", .string "first"),
  ("Heading", .string ""),
  ("width", .ofNat 3),
  ("Title", .string "second")]

theorem normalizeNames_follows_table_title :
    let renamed := titleRow.normalizeNames titleNames
    titleNames.Direct ∧
    renamed.get? "Label" = none ∧ renamed.get? "Heading" = some (.string "") ∧
    renamed.get? "title" = some (.string "second") ∧ renamed.get? "caption" = none ∧
    renamed.get? "width" = some (.ofNat 3) ∧
    (Entries.keys renamed).filter (· ∈ Entries.keys titleRow) = ["title", "Heading", "width"] ∧
    renamed.normalizeNames titleNames = renamed := by
  intro renamed
  have hdirect : titleNames.Direct := by decide
  obtain ⟨hcolumns, htargets, hothers, horder, honce⟩ :=
    normalizeNames_follows_table hdirect titleRow
  refine ⟨hdirect, hcolumns "Label" "title" (by decide), hcolumns "Heading" "title" (by decide),
    (htargets ⟨"Title", "title"⟩ (by decide)).trans ?_,
    (htargets ⟨"Label", "caption"⟩ (by decide)).trans ?_, hothers "width" (by decide) (by decide),
    horder.trans ?_, honce⟩
  · rfl
  · rfl
  · decide +kernel

end Field

end AdaptiveForm
