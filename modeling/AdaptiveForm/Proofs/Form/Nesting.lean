import AdaptiveForm.Proofs.Form.Document

/-!
# Where the fields of the rows lie

A row belongs to the last panel above it that has the name of its parent, and to the form itself if
there is none.  `transform_nests_rows` says that the document is the forest of these: its top level
lists the rows that belong to no panel, every other field has its panel's row around it, and where
several rows lie in one place they stand in their order.
-/

namespace AdaptiveForm

namespace Rows

variable (settings : Settings) (rows : List Entries)

/-- The row of the panel that the `i`-th row belongs to: the last panel before it that has the name
of its parent. -/
def panel? (i : Nat) : Option Nat :=
  (rows[i]?.bind (parentName? settings)).bind (lastPanel? settings rows i)

variable {settings rows}

theorem lastPanel?_eq_none {name : String}
    (h : ∀ row ∈ rows, panelName? settings row ≠ some name) (n : Nat) :
    lastPanel? settings rows n name = none := by
  rw [lastPanel?_eq_none_iff]
  intro k _ hk
  obtain ⟨row, hrow, hname⟩ := Option.bind_eq_some_iff.mp hk
  exact h row (List.mem_of_getElem? hrow) hname

/-- As long as no panel takes the name of the form, a row that has no panel belongs to the form. -/
theorem owner?_eq_panel? (h : ∀ row ∈ rows, panelName? settings row ≠ some Panels.rootName)
    (i : Nat) : owner? settings rows i = panel? settings rows i := by
  rw [owner?, lastPanel?_eq_none h, Option.or_none, panel?]

def inside (settings : Settings) (rows : List Entries) (panel : Option Nat) : List Nat :=
  (List.range rows.length).filter fun i => panel? settings rows i = panel

end Rows

open Rows Nest

/-- **The document nests the rows as their parents say.** The rows that belong to no panel are at
the top level, each row that belongs to a panel is in the items of that panel, and those in one
place stand in the order of the rows. -/
theorem transform_nests_rows (settings : Settings) (validate : Bool) (sourceId : Option String)
    (metadata : Option Entries) {payload : Json} {rows : List Json}
    (hpayload : isDefinition payload = false) (hrows : rows? payload = some rows)
    (hroot : ∀ row ∈ fieldsOf settings rows, panelName? settings row ≠ some Panels.rootName) :
    ∃ outcome values tree forest,
      (transform settings validate sourceId metadata payload).result = .ok outcome ∧
      outcome.definition.get? "items" = some (.array values) ∧
      Displayed settings (fieldsOf settings rows) tree forest values ∧
      forest.map Nest.id = inside settings (fieldsOf settings rows) none ∧
      AllFollow (fun panel => inside settings (fieldsOf settings rows) (some panel)) forest := by
  obtain ⟨outcome, values, forest, hresult, hitems, -, hdrawn, hdisplayed⟩ :=
    exists_document settings validate sourceId metadata hpayload hrows
  have howner := funext (owner?_eq_panel? hroot)
  have hlist : ∀ panel, (tree settings validate rows).children (.ofOwner panel) =
      inside settings (fieldsOf settings rows) panel := by
    intro panel
    rw [children_tree, howner, inside]
  refine ⟨outcome, values, _, forest, hresult, hitems, hdisplayed, ?_, ?_⟩
  · exact hdrawn.roots.trans (hlist none)
  · exact hdrawn.follows.congr fun panel _ => (hlist (some panel)).symm

/-- Rows in which a panel lies in another one of its own name and takes the name over, a parent
stands below, and a name is a number. -/
def takeoverRows : List Json := [
  .object [("name", .string "a"), ("fieldType", .string "panel")],
  .object [("name", .string "x"), ("parent", .string "a")],
  .object [("name", .string "a"), ("fieldType", .string "panel"), ("parent", .string "a")],
  .object [("name", .string "p"), ("fieldType", .string "property")],
  .object [("Field", .string "y"), ("Parent", .string "a")],
  .object [("name", .string "z"), ("parent", .string "7")],
  .object [("name", .ofNat 7), ("fieldType", .string "panel")],
  .object [("name", .string "w"), ("parent", .string "7")]]

theorem transform_nests_rows_takeover :
    let payload := Json.object [("data", .array takeoverRows)]
    let fields := fieldsOf .usual takeoverRows
    isDefinition payload = false ∧ rows? payload = some takeoverRows ∧
    (∀ row ∈ fields, panelName? .usual row ≠ some Panels.rootName) ∧
    inside .usual fields none = [0, 4, 5] ∧ inside .usual fields (some 0) = [1, 2] ∧
    inside .usual fields (some 2) = [3] ∧ inside .usual fields (some 5) = [6] ∧
    ∃ outcome values tree forest,
      (transform .usual false none none payload).result = .ok outcome ∧
      outcome.definition.get? "items" = some (.array values) ∧
      Displayed .usual fields tree forest values ∧
      forest.map Nest.id = inside .usual fields none ∧
      AllFollow (fun panel => inside .usual fields (some panel)) forest := by
  intro payload fields
  have hroot : ∀ row ∈ fields, panelName? .usual row ≠ some Panels.rootName := by decide +kernel
  exact ⟨rfl, rfl, hroot, by decide +kernel, by decide +kernel, by decide +kernel,
    by decide +kernel, transform_nests_rows .usual false none none rfl rfl hroot⟩

end AdaptiveForm
