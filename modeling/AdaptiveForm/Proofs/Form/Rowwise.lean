import AdaptiveForm.Form.Transform
import Mathlib.Data.List.Forall2

/-!
# Two payloads row by row

To compare what two payloads are transformed into, their rows are compared one by one.  A row that
is no object never becomes anything, so only the rows that become something matter
(`forall₂_eligibleRows`), and of these only what they are normalized to (`ofRows_eq_foldl`).
-/

namespace AdaptiveForm

/-- Two values among the rows of payloads: rows that are related, or no rows at all. -/
inductive Rowwise (R : Entries → Entries → Prop) : Json → Json → Prop
  | row {row row' : Entries} (h : R row row') : Rowwise R (.object row) (.object row')
  | other {value value' : Json} (h : value.asObject? = none) (h' : value'.asObject? = none) :
      Rowwise R value value'

namespace Rows

theorem forall₂_eligibleRows {R : Entries → Entries → Prop} {rows rows' : List Json}
    (h : List.Forall₂ (Rowwise R) rows rows')
    (heligible : ∀ row row', R row row' → isEligible row' = isEligible row) :
    List.Forall₂ R (eligibleRows rows) (eligibleRows rows') := by
  have hobject : ∀ ⦃value value' : Json⦄, Rowwise R value value' →
      Option.Rel R value.asObject? value'.asObject? := by
    rintro _ _ (h | ⟨h, h'⟩)
    · exact .some h
    · rw [h, h']
      exact .none
  rw [eligibleRows, eligibleRows]
  refine List.rel_filter ?_ (List.rel_filterMap hobject h)
  intro row row' hrow
  simp only [heligible row row' hrow]

def addNormalized (settings : Settings) (pass : Pass) (row : Field) : Pass :=
  if Properties.isProperty row then pass.addProperty row else pass.addField settings row

theorem ofRows_eq_foldl (settings : Settings) (rows : List Json) : Pass.ofRows settings rows =
    ((eligibleRows rows).map (normalizeRow settings)).foldl (addNormalized settings) .initial := by
  rw [List.foldl_map]
  rfl

end Rows

end AdaptiveForm
