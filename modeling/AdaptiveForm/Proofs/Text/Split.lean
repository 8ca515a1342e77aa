import AdaptiveForm.Text.Split
import Mathlib.Data.List.TakeWhile
import Mathlib.Data.String.Basic
import Mathlib.Tactic.SplitIfs

/-!
# Parts and separators

Splitting and joining undo each other: the parts with a separator before each but the first are the
text, `splitChars_eq_cons`, no part has a separator in it, `not_mem_of_mem_splitChars`, and parts
without separators are found again after they have been joined, `split_intercalate`.  A run of
characters ends where the first character stands that does not belong to it,
`takeWhile_append_ends`.
-/

namespace AdaptiveForm.Text

variable {separator : Char}

theorem splitChars_ne_nil (separator : Char) (cs : List Char) : splitChars separator cs ≠ [] := by
  cases cs with
  | nil => simp [splitChars]
  | cons c cs =>
    rw [splitChars]
    split_ifs
    · simp
    · split <;> simp

theorem splitChars_eq_cons : ∀ {cs part : List Char} {parts},
    splitChars separator cs = part :: parts → cs = part ++ parts.flatMap (separator :: ·) := by
  intro cs
  induction cs with
  | nil =>
    intro part parts h
    cases h
    rfl
  | cons c cs ih =>
    intro part parts h
    rw [splitChars] at h
    split_ifs at h with hc
    · cases h
      cases hs : splitChars separator cs with
      | nil => exact absurd hs (splitChars_ne_nil separator cs)
      | cons part parts =>
        rw [List.nil_append, List.flatMap_cons, List.cons_append, ← ih hs, hc]
    · cases hs : splitChars separator cs with
      | nil => exact absurd hs (splitChars_ne_nil separator cs)
      | cons part parts =>
        rw [hs] at h
        cases h
        rw [List.cons_append, ← ih hs]

theorem not_mem_of_mem_splitChars {cs part : List Char} (h : part ∈ splitChars separator cs) :
    separator ∉ part := by
  induction cs generalizing part with
  | nil =>
    rw [splitChars, List.mem_singleton] at h
    rw [h]
    exact List.not_mem_nil
  | cons c cs ih =>
    rw [splitChars] at h
    split_ifs at h with hc
    · rcases List.mem_cons.mp h with rfl | h
      · exact List.not_mem_nil
      · exact ih h
    · cases hs : splitChars separator cs with
      | nil => exact absurd hs (splitChars_ne_nil separator cs)
      | cons first rest =>
        rw [hs] at h ih
        rcases List.mem_cons.mp h with rfl | h
        · have hfirst := ih List.mem_cons_self
          simp [hfirst, Ne.symm hc]
        · exact ih (List.mem_cons_of_mem _ h)

theorem splitChars_append {part : List Char} (h : separator ∉ part) (cs : List Char) :
    splitChars separator (part ++ separator :: cs) = part :: splitChars separator cs := by
  induction part with
  | nil => rw [List.nil_append, splitChars, if_pos rfl]
  | cons c part ih =>
    rw [List.mem_cons, not_or] at h
    rw [List.cons_append, splitChars, if_neg (Ne.symm h.1), ih h.2]

theorem splitChars_of_not_mem {part : List Char} (h : separator ∉ part) :
    splitChars separator part = [part] := by
  induction part with
  | nil => rfl
  | cons c part ih =>
    rw [List.mem_cons, not_or] at h
    rw [splitChars, if_neg (Ne.symm h.1), ih h.2]

theorem toList_intercalate (part : String) (parts : List String) :
    (String.intercalate "." (part :: parts)).toList =
      part.toList ++ (parts.map String.toList).flatMap ('.' :: ·) := by
  induction parts generalizing part with
  | nil => simp
  | cons next parts ih =>
    rw [String.intercalate_cons_cons, String.toList_append, String.toList_append, ih]
    simp

theorem intercalate_split (s : String) : String.intercalate "." (split '.' s) = s := by
  cases hs : splitChars '.' s.toList with
  | nil => exact absurd hs (splitChars_ne_nil '.' _)
  | cons part parts =>
    have hid : String.toList ∘ String.ofList = id := funext fun _ => String.toList_ofList
    rw [← String.toList_inj, split, hs, List.map_cons, toList_intercalate, String.toList_ofList,
      List.map_map, hid, List.map_id, ← splitChars_eq_cons hs]

/-- **Parts are found again** in the text that they are joined to. -/
theorem split_intercalate {parts : List String} (hne : parts ≠ [])
    (h : ∀ part ∈ parts, '.' ∉ part.toList) :
    split '.' (String.intercalate "." parts) = parts := by
  induction parts with
  | nil => exact absurd rfl hne
  | cons part parts ih =>
    have hpart := h part List.mem_cons_self
    cases parts with
    | nil =>
      rw [String.intercalate_singleton, split, splitChars_of_not_mem hpart]
      simp
    | cons next parts =>
      have hrest := ih (List.cons_ne_nil _ _) fun q hq => h q (List.mem_cons_of_mem _ hq)
      rw [split] at hrest
      have htext : (String.intercalate "." (part :: next :: parts)).toList =
          part.toList ++ '.' :: (String.intercalate "." (next :: parts)).toList := by
        rw [String.intercalate_cons_cons]
        simp
      rw [split, htext, splitChars_append hpart, List.map_cons, hrest, String.ofList_toList]

/-! ### Runs -/

theorem takeWhile_append_of_head {p : Char → Bool} {rest : List Char}
    (h : ∀ c ∈ rest.head?, p c = false) (cs : List Char) :
    (cs ++ rest).takeWhile p = cs.takeWhile p := by
  have hrest : rest.takeWhile p = [] := by
    cases rest with
    | nil => rfl
    | cons c rest => simp [h c (by simp)]
  rw [List.takeWhile_append]
  split_ifs with hall
  · rw [hrest, List.append_nil]
    exact ((List.takeWhile_prefix p).eq_of_length hall).symm
  · rfl

theorem takeWhile_append_ends {p : Char → Bool} {cs rest : List Char} (h : ∀ c ∈ cs, p c = true)
    (hr : ∀ c ∈ rest.head?, p c = false) : (cs ++ rest).takeWhile p = cs := by
  rw [takeWhile_append_of_head hr, List.takeWhile_eq_self_iff.mpr h]

theorem dropWhile_append_ends {p : Char → Bool} {cs rest : List Char} (h : ∀ c ∈ cs, p c = true)
    (hr : ∀ c ∈ rest.head?, p c = false) : (cs ++ rest).dropWhile p = rest := by
  have hparts := List.takeWhile_append_dropWhile (p := p) (l := cs ++ rest)
  rw [takeWhile_append_ends h hr] at hparts
  exact List.append_cancel_left hparts

end AdaptiveForm.Text
