import AdaptiveForm.Proofs.Form.Document
import AdaptiveForm.Proofs.Form.Position

/-!
# The place of a row

In the forest of a document a field stands at the top level or directly inside another one.  Which
of these it is has been decided when the row was attached: the field stands inside that of the row
that owns it, and at the top level if it has no owner (`exists_places`).  Whatever names and types
the rows have, `owner?` tells all about their places.
-/

namespace AdaptiveForm

namespace Nest

variable {forest : List Nest}

/-- Somewhere in the forest stands the nest of `panel`, and the nest of `i` is directly inside. -/
def Inside (forest : List Nest) (panel i : Nat) : Prop :=
  ∃ pos above inside, At forest pos above (.mk panel inside) ∧ i ∈ inside.map Nest.id

theorem At.map_id_eq {lists : Nat → List Nat} {pos above : List Nat} {nest : Nest}
    (hat : At forest pos above nest) (h : AllFollow lists forest) :
    ∀ {id inside}, nest = .mk id inside → inside.map Nest.id = lists id := by
  induction hat with
  | here hk =>
    rintro id inside rfl
    exact (h.of_getElem? hk).1
  | inside hk _ ih => exact ih (h.of_getElem? hk).2

end Nest

open Nest (At Inside)

namespace Tree

variable {tree : Tree} {forest : List Nest}

theorem lt_size_of_mem_lists {panel i : Nat} (h : i ∈ tree.lists panel) : panel < tree.size := by
  by_contra hge
  have hnode : tree.nodes[panel]? = none := Array.getElem?_eq_none (Nat.le_of_not_lt hge)
  rw [lists, children, hnode] at h
  cases h

/-- **What a container lists stands inside it**, and nothing else does. -/
theorem Drawn.inside_iff (hdrawn : tree.Drawn forest) {panel i : Nat} :
    Inside forest panel i ↔ i ∈ tree.lists panel := by
  constructor
  · rintro ⟨pos, above, inside, hat, hi⟩
    rwa [hat.map_id_eq hdrawn.follows rfl] at hi
  · intro hi
    have hmem : panel ∈ Nest.idsAll forest := by
      rw [hdrawn.once.mem_iff, List.mem_range]
      exact lt_size_of_mem_lists hi
    obtain ⟨pos, above, ⟨id, inside⟩, hat, rfl⟩ := Nest.exists_at hmem
    have hlist : inside.map Nest.id = tree.lists id := hat.map_id_eq hdrawn.follows rfl
    exact ⟨pos, above, inside, hat, hlist ▸ hi⟩

end Tree

namespace Rows

structure Places (settings : Settings) (fields : List Entries) (forest : List Nest) : Prop where
  top : ∀ i < fields.length, (i ∈ forest.map Nest.id ↔ owner? settings fields i = none)
  inside : ∀ i < fields.length, ∀ panel,
    (Inside forest panel i ↔ owner? settings fields i = some panel)

variable {settings : Settings} {validate : Bool} {rows : List Json} {forest : List Nest}

theorem mem_children_tree {i : Nat} (hi : i < (fieldsOf settings rows).length)
    (owner : Option Nat) : i ∈ (tree settings validate rows).children (.ofOwner owner) ↔
      owner? settings (fieldsOf settings rows) i = owner := by
  rw [children_tree, List.mem_filter, List.mem_range, decide_eq_true_eq, and_iff_right hi]

theorem places_of_drawn (hdrawn : (tree settings validate rows).Drawn forest) :
    Places settings (fieldsOf settings rows) forest where
  top i hi := by
    rw [hdrawn.roots]
    exact mem_children_tree hi none
  inside i hi panel := by
    rw [hdrawn.inside_iff]
    exact mem_children_tree hi (some panel)

/-- **Every row of a payload has its place in the document.** -/
theorem exists_places (settings : Settings) (validate : Bool) (sourceId : Option String)
    (metadata : Option Entries) {payload : Json} (hpayload : isDefinition payload = false)
    (hrows : rows? payload = some rows) :
    ∃ outcome values tree forest,
      (transform settings validate sourceId metadata payload).result = .ok outcome ∧
      outcome.definition.get? "items" = some (.array values) ∧
      Displayed settings (fieldsOf settings rows) tree forest values ∧
      Places settings (fieldsOf settings rows) forest := by
  obtain ⟨outcome, values, forest, hresult, hvalues, -, hdrawn, hdisplayed⟩ :=
    exists_document settings validate sourceId metadata hpayload hrows
  exact ⟨outcome, values, _, forest, hresult, hvalues, hdisplayed, places_of_drawn hdrawn⟩

end Rows

end AdaptiveForm
