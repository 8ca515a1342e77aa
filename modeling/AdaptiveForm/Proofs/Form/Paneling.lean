import AdaptiveForm.Proofs.Field.Finishing
import AdaptiveForm.Proofs.Form.Placement

/-!
# Panels and their types

Whether a row is a panel is asked twice.  Its name is registered if its type is that of panels as
the sheet has it; its field is finished as a panel, and loses its name, if its type is that of
panels after the type table has been applied.  `transform_nests_in_panels` says for which of the
finished panels the rows that name them lie inside: the type has to be that of panels before the
table is applied, too.
-/

namespace AdaptiveForm

namespace Rows

variable {settings : Settings} {rows : List Entries}

/-- The name of a row whose field is finished as a panel. -/
def finishedPanelName? (settings : Settings) (row : Entries) : Option String :=
  if (finished settings row).type? = some Field.panelType then (normalizeRow settings row).name?
  else none

theorem finishedPanelName?_eq_some_iff {row : Entries} {name : String} :
    finishedPanelName? settings row = some name ↔
      (finished settings row).type? = some Field.panelType ∧
        (normalizeRow settings row).name? = some name := by
  rw [finishedPanelName?]
  split_ifs with h
  · rw [and_iff_right h]
  · exact ⟨nofun, fun hpanel => absurd hpanel.1 h⟩

theorem panelName?_eq_some_iff {row : Entries} {name : String} :
    panelName? settings row = some name ↔
      (normalizeRow settings row).type? = some Field.panelType ∧
        (normalizeRow settings row).name? = some name := by
  rw [panelName?, Pass.panelName?]
  split_ifs with h
  · rw [and_iff_right h]
  · exact ⟨nofun, fun hpanel => absurd hpanel.1 h⟩

/-- The type of a finished panel leads to that of panels. -/
theorem type?_of_finishedPanelName? {row : Entries} {name : String}
    (h : finishedPanelName? settings row = some name) :
    ∃ type, (normalizeRow settings row).type? = some type ∧
      (settings.mappings.inputType? type).getD type = Field.panelType :=
  Field.type?_of_build (finishedPanelName?_eq_some_iff.mp h).1

/-- **A row that names its parent belongs to a row of this name** exactly if this is the last panel
of the name.  The panel that has taken the name of the form is no other way there. -/
theorem owner?_eq_some_iff_of_parent {i j : Nat} {panel row : Entries} {name : String}
    (hpanel : rows[i]? = some panel) (hname : (normalizeRow settings panel).name? = some name)
    (hrow : rows[j]? = some row) (hparent : parentName? settings row = some name) :
    owner? settings rows j = some i ↔ lastPanel? settings rows j name = some i := by
  rw [owner?, hrow, Option.bind_some, hparent, Option.bind_some, Option.or_eq_some_iff,
    or_iff_left_iff_imp]
  rintro ⟨hnone, hroot⟩
  obtain ⟨-, htaken, -⟩ := lastPanel?_eq_some_iff.mp hroot
  rw [hpanel, Option.bind_some, panelName?_eq_some_iff, hname, Option.some.injEq] at htaken
  rw [htaken.2] at hnone
  rw [hnone] at hroot
  cases hroot

end Rows

open Rows

/-- **Rows lie in the finished panels that they name**, if the type of these is that of panels in
the sheet already.  A row whose field is finished as a panel has a type that the type table leads to
that of panels.  A later row that has its name as parent lies inside if and only if this type is
that of panels itself, and no row in between is of this type and name. -/
theorem transform_nests_in_panels (settings : Settings) (validate : Bool)
    (sourceId : Option String) (metadata : Option Entries) {payload : Json} {rows : List Json}
    (hpayload : isDefinition payload = false) (hrows : rows? payload = some rows) :
    ∃ outcome values tree forest,
      (transform settings validate sourceId metadata payload).result = .ok outcome ∧
      outcome.definition.get? "items" = some (.array values) ∧
      Displayed settings (fieldsOf settings rows) tree forest values ∧
      ∀ i j panel row name, i < j →
        (fieldsOf settings rows)[i]? = some panel → (fieldsOf settings rows)[j]? = some row →
        finishedPanelName? settings panel = some name → parentName? settings row = some name →
        ∃ type, (normalizeRow settings panel).type? = some type ∧
          (settings.mappings.inputType? type).getD type = Field.panelType ∧
          (Nest.Inside forest i j ↔ type = Field.panelType ∧
            ∀ k, i < k → k < j →
              (fieldsOf settings rows)[k]?.bind (panelName? settings) ≠ some name) := by
  obtain ⟨outcome, values, tree, forest, hresult, hvalues, hdisplayed, hplaces⟩ :=
    exists_places settings validate sourceId metadata hpayload hrows
  refine ⟨outcome, values, tree, forest, hresult, hvalues, hdisplayed, ?_⟩
  intro i j panel row name hij hpanel hrow hfinished hparent
  obtain ⟨type, htype, hword⟩ := type?_of_finishedPanelName? hfinished
  have hname := (finishedPanelName?_eq_some_iff.mp hfinished).2
  have hj : j < (fieldsOf settings rows).length := (List.getElem?_eq_some_iff.mp hrow).1
  refine ⟨type, htype, hword, ?_⟩
  rw [hplaces.inside j hj, owner?_eq_some_iff_of_parent hpanel hname hrow hparent,
    lastPanel?_eq_some_iff, hpanel, Option.bind_some, panelName?_eq_some_iff, htype, hname,
    Option.some.injEq, and_iff_right hij, and_iff_left rfl]

def sectionRows : List Json := [
  .object [("name", .string "a"), ("fieldType", .string "panel")],
  .object [("name", .string "t"), ("fieldType", .string "property")],
  .object [("Field", .ofNat 7), ("Type", .string "section"), ("Parent", .string "a")],
  .object [("name", .string "x"), ("parent", .string "a")],
  .object [("name", .string "y"), ("parent", .string "7")]]

def sectionSettings : Settings :=
  { Settings.usual with mappings := Mappings.usual.withType "section" "panel" }

theorem transform_nests_in_panels_section :
    let payload := Json.object [("data", .array sectionRows)]
    let fields := fieldsOf sectionSettings sectionRows
    isDefinition payload = false ∧ rows? payload = some sectionRows ∧
    (∃ panel row, 0 < 2 ∧ fields[0]? = some panel ∧ fields[2]? = some row ∧
      finishedPanelName? sectionSettings panel = some "a" ∧
      parentName? sectionSettings row = some "a") ∧
    ∃ outcome values tree forest,
      (transform sectionSettings false none none payload).result = .ok outcome ∧
      outcome.definition.get? "items" = some (.array values) ∧
      Displayed sectionSettings fields tree forest values ∧ Nest.Inside forest 0 2 := by
  intro payload fields
  have hrows : rows? payload = some sectionRows := rfl
  have hpanel : fields[0]? =
      some [("name", .string "a"), ("fieldType", .string "panel")] := by rfl
  have hrow : fields[2]? = some [("name", .string "x"), ("parent", .string "a")] := by rfl
  have hname : finishedPanelName? sectionSettings
      [("name", .string "a"), ("fieldType", .string "panel")] = some "a" := by decide +kernel
  have hparent : parentName? sectionSettings
      [("name", .string "x"), ("parent", .string "a")] = some "a" := by decide +kernel
  obtain ⟨outcome, values, tree, forest, hresult, hvalues, hdisplayed, hnests⟩ :=
    transform_nests_in_panels sectionSettings false none none rfl hrows
  obtain ⟨type, htype, -, hinside⟩ :=
    hnests 0 2 _ _ "a" (by decide) hpanel hrow hname hparent
  have hown : (normalizeRow sectionSettings
      [("name", .string "a"), ("fieldType", .string "panel")]).type? = some Field.panelType := by
    decide +kernel
  refine ⟨rfl, hrows, ⟨_, _, by decide, hpanel, hrow, hname, hparent⟩, outcome, values, tree,
    forest, hresult, hvalues, hdisplayed, hinside.mpr ⟨?_, ?_⟩⟩
  · exact Option.some.inj (htype.symm.trans hown)
  · -- the only row in between has another name and another type
    intro k hk hkj
    obtain rfl : k = 1 := by omega
    decide +kernel

/-- A panel in a word of its own, and a row that names it. -/
def lostSectionRows : List Json := [
  .object [("name", .string "a"), ("fieldType", .string "section")],
  .object [("name", .string "b"), ("parent", .string "a")]]

/-- **The panel stays empty that is one only by the type table**: its field is finished as a panel
of the name `a`, a row below names `a`, no row stands in between, and yet the row does not lie
inside. -/
theorem not_inside_section :
    let payload := Json.object [("data", .array lostSectionRows)]
    let fields := fieldsOf sectionSettings lostSectionRows
    isDefinition payload = false ∧ rows? payload = some lostSectionRows ∧
    fields[0]?.bind (finishedPanelName? sectionSettings) = some "a" ∧
    fields[1]?.bind (parentName? sectionSettings) = some "a" ∧
    ∃ outcome values tree forest,
      (transform sectionSettings false none none payload).result = .ok outcome ∧
      outcome.definition.get? "items" = some (.array values) ∧
      Displayed sectionSettings fields tree forest values ∧
      1 ∈ forest.map Nest.id ∧ ¬ Nest.Inside forest 0 1 := by
  intro payload fields
  have hrows : rows? payload = some lostSectionRows := rfl
  have howner : owner? sectionSettings fields 1 = none := by decide +kernel
  have hid : 1 < fields.length := by decide +kernel
  obtain ⟨outcome, values, tree, forest, hresult, hvalues, hdisplayed, hplaces⟩ :=
    exists_places sectionSettings false none none rfl hrows
  refine ⟨rfl, hrows, by decide +kernel, by decide +kernel, outcome, values, tree, forest, hresult,
    hvalues, hdisplayed, ?_, ?_⟩
  · exact (hplaces.top 1 hid).mpr howner
  · rw [hplaces.inside 1 hid, howner]
    exact nofun

end AdaptiveForm
