import AdaptiveForm.Proofs.Form.Placement
import AdaptiveForm.Proofs.Form.Reference

/-!
# Rows without a panel

A row that names no parent, or a parent that is not known, is to lie at the top level of the form,
and of the latter the log says that it does.  But the form is known to the rows under a name, as
panels are, and a panel may take that name.  From then on rows without a panel of their own lie in
that panel: `transform_places_strays` says that they are at the top level exactly as long as no
panel has taken the name of the form, and otherwise in the last panel that has.
-/

namespace AdaptiveForm

/-! ### Panels after any registrations -/

namespace Panels

def ofRegistrations (registrations : List (String × Nat)) : Panels :=
  registrations.foldl (fun panels registration => panels.register registration.1 registration.2)
    initial

variable {registrations : List (String × Nat)} {name : String}

theorem ofRegistrations_append (registration : String × Nat) :
    ofRegistrations (registrations ++ [registration]) =
      (ofRegistrations registrations).register registration.1 registration.2 := by
  rw [ofRegistrations, List.foldl_append]
  rfl

theorem get?_initial (name : String) :
    initial.get? name = if name = rootName then some .root else none := by
  rw [initial, get?, lookup_cons_ite, List.lookup_nil]

theorem get?_of_never_registered (h : name ∉ registrations.map Prod.fst) :
    (ofRegistrations registrations).get? name = if name = rootName then some .root else none := by
  induction registrations using List.reverseRecOn with
  | nil => exact get?_initial name
  | append_singleton registrations registration ih =>
    rw [List.map_append, List.mem_append, not_or] at h
    have hne : name ≠ registration.1 := by simpa using h.2
    rw [ofRegistrations_append, get?_register, if_neg hne, ih h.1]

theorem exists_panel_of_registered (h : name ∈ registrations.map Prod.fst) :
    ∃ id, (ofRegistrations registrations).get? name = some (.panel id) := by
  induction registrations using List.reverseRecOn with
  | nil => cases h
  | append_singleton registrations registration ih =>
    rw [ofRegistrations_append, get?_register]
    split_ifs with hname
    · exact ⟨registration.2, rfl⟩
    · rw [List.map_append, List.mem_append] at h
      exact ih (h.resolve_right (by simpa using hname))

/-- **Without a panel of its own a row goes where the name of the form leads.** -/
theorem resolve_of_never_registered {parent : Option String}
    (h : ∀ name ∈ parent, name ∉ registrations.map Prod.fst) :
    (ofRegistrations registrations).resolve parent =
      ((ofRegistrations registrations).get? rootName).getD .root := by
  cases parent with
  | none =>
    rw [resolve, Option.getD_none]
    cases (ofRegistrations registrations).get? rootName <;> rfl
  | some name =>
    have hname := get?_of_never_registered (h name rfl)
    rw [resolve, Option.getD_some, hname]
    split_ifs at hname ⊢ with hroot
    · rw [← hroot, hname]
      rfl
    · rfl

/-- The name of the form leads to the form until it is registered. -/
theorem resolve_eq_root_iff {parent : Option String}
    (h : ∀ name ∈ parent, name ∉ registrations.map Prod.fst) :
    (ofRegistrations registrations).resolve parent = .root ↔
      rootName ∉ registrations.map Prod.fst := by
  rw [resolve_of_never_registered h]
  by_cases hroot : rootName ∈ registrations.map Prod.fst
  · obtain ⟨id, hid⟩ := exists_panel_of_registered hroot
    simp [hid, hroot]
  · simp [get?_of_never_registered hroot, hroot]

end Panels

namespace Rows

variable (settings : Settings)

/-! ### Parents that are not known -/

/-- The parent that a row names in vain: no row before it is a panel of that name, and the form has
another name. -/
def unknownParent? (before : List Entries) (row : Entries) : Option String :=
  (parentName? settings row).filter fun name => (container? settings before name).isNone

def unknownParents (rows : List Entries) : List (Nat × String) :=
  (List.range rows.length).filterMap fun k =>
    ((rows[k]?.filter (isField settings)).bind
      (unknownParent? settings (fieldRows settings (rows.take k)))).map (Trace.firstRow + k, ·)

variable {settings} {rows : List Entries}

theorem unknownParents_append (row : Entries) : unknownParents settings (rows ++ [row]) =
    unknownParents settings rows ++ (((some row).filter (isField settings)).bind
      (unknownParent? settings (fieldRows settings rows))).toList.map
        (Trace.firstRow + rows.length, ·) := by
  rw [unknownParents, List.length_append, List.length_singleton, List.range_succ,
    List.filterMap_append, unknownParents]
  congr 1
  · apply List.filterMap_congr
    intro k hk
    have hlt : k < rows.length := List.mem_range.mp hk
    rw [List.getElem?_append_left hlt, List.take_append_of_le_length (Nat.le_of_lt hlt)]
  · rw [List.filterMap_cons, List.getElem?_concat_length, List.take_left]
    cases ((some row).filter (isField settings)).bind _ <;> rfl

theorem log_addRow {pass : Pass} (h : Takes settings rows pass) (row : Entries) :
    (pass.addRow settings row).log = pass.log ++ ((((some row).filter (isField settings)).bind
      (unknownParent? settings (fieldRows settings rows))).map
        (Pass.unknownParentWarning pass.row)).toList := by
  simp only [Pass.addRow]
  split_ifs with hp
  · have hrow : isField settings row = false := by rw [isField, hp]; rfl
    rw [Option.filter_some, hrow]
    exact (List.append_nil _).symm
  · have hrow : isField settings row = true := by rw [isField, Bool.eq_false_iff.mpr hp]; rfl
    have hknown : ∀ name, pass.panels.contains name =
        (container? settings (fieldRows settings rows) name).isSome := fun name => by
      rw [Panels.contains, h.panels]
    have hparent : (pass.panels.attach pass.tree (finished settings row)).unknownParent =
        unknownParent? settings (fieldRows settings rows) row := by
      simp only [Panels.attach, unknownParent?, hknown, Option.not_isSome]
      rfl
    rw [Option.filter_some, hrow, if_pos rfl, Option.bind_some, ← hparent]
    rfl

/-- **The rows are reported whose parents are not known**, each under its number. -/
theorem log_foldl (settings : Settings) (rows : List Entries) :
    (rows.foldl (Pass.addRow settings) .initial).log =
      (unknownParents settings rows).map fun lost => Pass.unknownParentWarning lost.1 lost.2 := by
  induction rows using List.reverseRecOn with
  | nil => rfl
  | append_singleton rows row ih =>
    have htakes := takes_foldl settings rows
    rw [List.foldl_append, List.foldl_cons, List.foldl_nil, log_addRow htakes, ih, htakes.row,
      unknownParents_append, List.map_append, List.map_map]
    cases ((some row).filter (isField settings)).bind _ <;> rfl

/-- What a document's log holds besides: the formulas that were not compiled, and the report at the
end. -/
theorem exists_log {validate : Bool} {sourceId : Option String} {metadata : Option Entries}
    {payload : Json} {rows : List Json} {outcome : Outcome}
    (hpayload : isDefinition payload = false) (hrows : rows? payload = some rows)
    (hresult : (transform settings validate sourceId metadata payload).result = .ok outcome) :
    ∃ report, (transform settings validate sourceId metadata payload).log =
      Log.info ("Transforming " ++ toString rows.length ++ " rows...") ::
        ((unknownParents settings (eligibleRows rows)).map
          (fun lost => Pass.unknownParentWarning lost.1 lost.2) ++
        outcome.failures.map RuleFailure.warning ++ [report]) := by
  simp only [transform, hpayload, hrows, Bool.false_eq_true, if_false] at hresult ⊢
  cases hresult
  rw [← log_foldl]
  exact ⟨_, rfl⟩

/-! ### Where such rows go -/

def IsStray (settings : Settings) (rows : List Json) (r : Nat) (row : Entries) : Prop :=
  parentName? settings row = none ∨ ∃ name, (r, name) ∈ unknownParents settings (eligibleRows rows)

variable {rows : List Json} {r id : Nat} {row : Entries}

theorem fieldsOf_eq_append (n : Nat) : fieldsOf settings rows =
    fieldRows settings ((eligibleRows rows).take n) ++
      fieldRows settings ((eligibleRows rows).drop n) := by
  rw [fieldsOf, fieldRows, fieldRows, fieldRows, ← List.filter_append, List.take_append_drop]

/-- No panel has the name of a parent that is not known. -/
theorem lastPanel?_eq_none_of_unknown {name : String} (hrow : FieldOfRow settings rows r id row)
    (h : (r, name) ∈ unknownParents settings (eligibleRows rows)) :
    parentName? settings row = some name ∧
      lastPanel? settings (fieldsOf settings rows) id name = none := by
  obtain ⟨k, -, hk⟩ := List.mem_filterMap.mp h
  obtain ⟨lost, hlost, heq⟩ := Option.map_eq_some_iff.mp hk
  obtain ⟨rfl, rfl⟩ := Prod.mk.inj heq
  obtain ⟨row', hrow', hunknown⟩ := Option.bind_eq_some_iff.mp hlost
  obtain ⟨hrow', -⟩ := Option.filter_eq_some_iff.mp hrow'
  have hnumber := hrow.number
  have heligible := hrow.eligible
  rw [Nat.add_sub_cancel_left] at hnumber heligible
  cases heligible.symm.trans hrow'
  obtain ⟨hparent, hnone⟩ := Option.filter_eq_some_iff.mp hunknown
  refine ⟨hparent, ?_⟩
  rw [container?, Option.isNone_iff_eq_none, Option.or_eq_none_iff, Option.map_eq_none_iff] at hnone
  rw [fieldsOf_eq_append k, hnumber, lastPanel?_append _ (Nat.le_refl _)]
  exact hnone.1

/-- **A row without a panel belongs to the last one that has the name of the form.** -/
theorem owner?_of_isStray (hrow : FieldOfRow settings rows r id row)
    (h : IsStray settings rows r row) : owner? settings (fieldsOf settings rows) id =
      lastPanel? settings (fieldsOf settings rows) id Panels.rootName := by
  rw [owner?, hrow.field, Option.bind_some]
  rcases h with hnone | ⟨name, hunknown⟩
  · rw [hnone, Option.bind_none, Option.none_or]
  · obtain ⟨hparent, hnone⟩ := lastPanel?_eq_none_of_unknown hrow hunknown
    rw [hparent, Option.bind_some, hnone, Option.none_or]

end Rows

open Rows

/-- **Rows without a panel lie at the top level as long as no panel has the name of the form.** The
form is where unknown names lead until its own name is registered.  In a document a row that names
no parent, or one that the log reports as unknown, is at the top level if and only if no row before
it is a panel of the form's name, and it lies directly in a panel if and only if that is the last
such row. -/
theorem transform_places_strays (settings : Settings) (validate : Bool) (sourceId : Option String)
    (metadata : Option Entries) {payload : Json} {rows : List Json}
    (hpayload : isDefinition payload = false) (hrows : rows? payload = some rows) :
    (∀ (registrations : List (String × Nat)) (parent : Option String),
      (∀ name ∈ parent, name ∉ registrations.map Prod.fst) →
      ((Panels.ofRegistrations registrations).resolve parent = .root ↔
        Panels.rootName ∉ registrations.map Prod.fst)) ∧
    ∃ outcome values tree forest report,
      (transform settings validate sourceId metadata payload).result = .ok outcome ∧
      (transform settings validate sourceId metadata payload).log =
        Log.info ("Transforming " ++ toString rows.length ++ " rows...") ::
          ((unknownParents settings (eligibleRows rows)).map
            (fun lost => Pass.unknownParentWarning lost.1 lost.2) ++
          outcome.failures.map RuleFailure.warning ++ [report]) ∧
      outcome.definition.get? "items" = some (.array values) ∧
      Displayed settings (fieldsOf settings rows) tree forest values ∧
      ∀ r id row, FieldOfRow settings rows r id row → IsStray settings rows r row →
        (id ∈ forest.map Nest.id ↔ ∀ k < id,
          (fieldsOf settings rows)[k]?.bind (panelName? settings) ≠ some Panels.rootName) ∧
        ∀ panel, Nest.Inside forest panel id ↔
          lastPanel? settings (fieldsOf settings rows) id Panels.rootName = some panel := by
  refine ⟨fun registrations parent => Panels.resolve_eq_root_iff, ?_⟩
  obtain ⟨outcome, values, tree, forest, hresult, hvalues, hdisplayed, hplaces⟩ :=
    exists_places settings validate sourceId metadata hpayload hrows
  obtain ⟨report, hlog⟩ := exists_log hpayload hrows hresult
  refine ⟨outcome, values, tree, forest, report, hresult, hlog, hvalues, hdisplayed, ?_⟩
  intro r id row hrow hstray
  have hid : id < (fieldsOf settings rows).length := (List.getElem?_eq_some_iff.mp hrow.field).1
  have howner := owner?_of_isStray hrow hstray
  refine ⟨?_, ?_⟩
  · rw [hplaces.top id hid, howner, lastPanel?_eq_none_iff]
  · intro panel
    rw [hplaces.inside id hid, howner]

def strayRows : List Json := [
  .object [("name", .string "p"), ("fieldType", .string "panel")],
  .object [("name", .string "t"), ("fieldType", .string "property")],
  .object [("name", .string "a"), ("parent", .string "nowhere")],
  .object [("Field", .string "root"), ("Type", .string "panel"), ("Parent", .string "p")],
  .object [("label", .string "note")],
  .object [("name", .string "b"), ("parent", .ofNat 7)],
  .object [("name", .string "c")]]

theorem transform_places_strays_around_root :
    let payload := Json.object [("data", .array strayRows)]
    let fields := fieldsOf .usual strayRows
    isDefinition payload = false ∧ rows? payload = some strayRows ∧
    unknownParents .usual (eligibleRows strayRows) = [(4, "nowhere"), (6, "7")] ∧
    lastPanel? .usual fields 1 "root" = none ∧ lastPanel? .usual fields 3 "root" = some 2 ∧
    lastPanel? .usual fields 4 "root" = some 2 ∧
    ∃ outcome values tree forest,
      (transform .usual false none none payload).result = .ok outcome ∧
      outcome.definition.get? "items" = some (.array values) ∧
      Displayed .usual fields tree forest values ∧
      1 ∈ forest.map Nest.id ∧ Nest.Inside forest 2 3 ∧ Nest.Inside forest 2 4 := by
  intro payload fields
  have hrows : rows? payload = some strayRows := rfl
  have hunknown : unknownParents .usual (eligibleRows strayRows) =
      [(4, "nowhere"), (6, "7")] := by decide +kernel
  have hfirst : lastPanel? .usual fields 1 "root" = none := by decide +kernel
  have hthird : lastPanel? .usual fields 3 "root" = some 2 := by decide +kernel
  have hlast : lastPanel? .usual fields 4 "root" = some 2 := by decide +kernel
  have ha : FieldOfRow .usual strayRows 4 1 _ :=
    ⟨by decide, rfl, by decide +kernel, rfl⟩
  have hb : FieldOfRow .usual strayRows 6 3 _ :=
    ⟨by decide, rfl, by decide +kernel, rfl⟩
  have hc : FieldOfRow .usual strayRows 7 4 _ :=
    ⟨by decide, rfl, by decide +kernel, rfl⟩
  obtain ⟨-, outcome, values, tree, forest, -, hresult, -, hvalues, hdisplayed, hstrays⟩ :=
    transform_places_strays .usual false none none rfl hrows
  refine ⟨rfl, hrows, hunknown, hfirst, hthird, hlast, outcome, values, tree, forest, hresult,
    hvalues, hdisplayed, ?_, ?_, ?_⟩
  · have hlost : (4, "nowhere") ∈ unknownParents .usual (eligibleRows strayRows) := by
      rw [hunknown]
      exact List.mem_cons_self
    exact (hstrays 4 1 _ ha (.inr ⟨_, hlost⟩)).1.mpr (lastPanel?_eq_none_iff.mp hfirst)
  · have hlost : (6, "7") ∈ unknownParents .usual (eligibleRows strayRows) := by
      rw [hunknown]
      exact List.mem_cons_of_mem _ List.mem_cons_self
    exact ((hstrays 6 3 _ hb (.inr ⟨_, hlost⟩)).2 2).mpr hthird
  · exact ((hstrays 7 4 _ hc (.inl (by decide +kernel))).2 2).mpr hlast

/-- A panel that takes the name of the form, and behind it a row that names no parent and one that
names its parent in vain. -/
def rootPanelRows : List Json := [
  .object [("name", .string "root"), ("fieldType", .string "panel")],
  .object [("name", .string "a")],
  .object [("name", .string "b"), ("parent", .string "nowhere")]]

/-- **A panel of the form's name takes the rows without a panel**: none of their parents is
registered, and the log tells of the one that is not known, yet the name of the form leads to the
panel, and the rows lie inside it and not at the top level. -/
theorem stray_inside_root_panel :
    let payload := Json.object [("data", .array rootPanelRows)]
    let fields := fieldsOf .usual rootPanelRows
    (Panels.ofRegistrations [("root", 0)]).resolve none = .panel 0 ∧
    (Panels.ofRegistrations [("root", 0)]).resolve (some "nowhere") = .panel 0 ∧
    isDefinition payload = false ∧ rows? payload = some rootPanelRows ∧
    fields[1]?.bind (parentName? .usual) = none ∧
    unknownParents .usual (eligibleRows rootPanelRows) = [(4, "nowhere")] ∧
    ∃ outcome values tree forest,
      (transform .usual false none none payload).result = .ok outcome ∧
      outcome.definition.get? "items" = some (.array values) ∧
      Displayed .usual fields tree forest values ∧
      ∀ i ∈ [1, 2], i ∉ forest.map Nest.id ∧ Nest.Inside forest 0 i := by
  intro payload fields
  have hrows : rows? payload = some rootPanelRows := rfl
  have howner : ∀ i ∈ [1, 2], i < fields.length ∧ owner? .usual fields i = some 0 := by
    decide +kernel
  obtain ⟨outcome, values, tree, forest, hresult, hvalues, hdisplayed, hplaces⟩ :=
    exists_places .usual false none none rfl hrows
  refine ⟨rfl, rfl, rfl, hrows, by decide +kernel, by decide +kernel, outcome, values, tree, forest,
    hresult, hvalues, hdisplayed, ?_⟩
  intro i hi
  obtain ⟨hid, hpanel⟩ := howner i hi
  refine ⟨?_, (hplaces.inside i hid 0).mpr hpanel⟩
  rw [hplaces.top i hid, hpanel]
  exact Option.some_ne_none 0

end AdaptiveForm
