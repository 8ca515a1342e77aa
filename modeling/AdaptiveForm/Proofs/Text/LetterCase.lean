import AdaptiveForm.Text.LetterCase
import Mathlib.Tactic.SplitIfs

/-!
# Texts in lower case

No character is lost in lower case, but some take two.  So a text is its own lower case only if
each of its characters is, `lowerCase_eq_self_iff`; a capital sigma never is, whichever small one
stands for it.
-/

namespace AdaptiveForm.Text

/-- The character is its own lower case, wherever it stands. -/
def IsLower (c : Char) : Prop :=
  c ≠ 'Σ' ∧ lowerChar c = [c]

instance (c : Char) : Decidable (IsLower c) := by
  unfold IsLower
  infer_instance

theorem lowerChar_ne_nil (c : Char) : lowerChar c ≠ [] := by
  rw [lowerChar]
  split_ifs <;> exact List.cons_ne_nil _ _

/-- The lower case of a character in its text: at least one character, and another one than the
character itself if that is not its own lower case. -/
theorem lowerCharsAfter_cons (before : List Char) (c : Char) (cs : List Char) :
    ∃ d ds, lowerCharsAfter before (c :: cs) = d :: ds ++ lowerCharsAfter (c :: before) cs ∧
      (d :: ds = [c] ↔ IsLower c) := by
  rw [lowerCharsAfter]
  by_cases hsigma : c = 'Σ'
  · subst hsigma
    have hno : ¬ IsLower 'Σ' := fun h => h.1 rfl
    simp only [if_true]
    split_ifs
    · exact ⟨'ς', [], rfl, by simp [hno]⟩
    · exact ⟨'σ', [], rfl, by simp [hno]⟩
  · obtain ⟨d, ds, hd⟩ := List.exists_cons_of_ne_nil (lowerChar_ne_nil c)
    exact ⟨d, ds, by simp [hsigma, hd], by simp [IsLower, hsigma, hd]⟩

theorem length_le_lowerCharsAfter (before cs : List Char) :
    cs.length ≤ (lowerCharsAfter before cs).length := by
  induction cs generalizing before with
  | nil => exact Nat.zero_le _
  | cons c cs ih =>
    obtain ⟨d, ds, h, -⟩ := lowerCharsAfter_cons before c cs
    have := ih (c :: before)
    rw [h, List.length_append, List.length_cons, List.length_cons]
    omega

theorem lowerCharsAfter_eq_self_iff {before cs : List Char} :
    lowerCharsAfter before cs = cs ↔ ∀ c ∈ cs, IsLower c := by
  induction cs generalizing before with
  | nil => simp [lowerCharsAfter]
  | cons c cs ih =>
    obtain ⟨d, ds, h, hlower⟩ := lowerCharsAfter_cons before c cs
    have hlength := length_le_lowerCharsAfter (c :: before) cs
    rw [h, List.forall_mem_cons, ← hlower, ← @ih (c :: before)]
    constructor
    · intro heq
      have hds : ds = [] := by
        have := congrArg List.length heq
        rw [List.length_append, List.length_cons, List.length_cons] at this
        exact List.eq_nil_of_length_eq_zero (by omega)
      subst hds
      obtain ⟨rfl, hcs⟩ := List.cons.inj heq
      exact ⟨rfl, hcs⟩
    · rintro ⟨hc, hcs⟩
      rw [hc, hcs]
      rfl

/-- **A text is its own lower case** exactly if each of its characters is. -/
theorem lowerCase_eq_self_iff {s : String} : lowerCase s = s ↔ ∀ c ∈ s.toList, IsLower c := by
  rw [lowerCase, ← String.toList_inj, String.toList_ofList, lowerCharsAfter_eq_self_iff]

end AdaptiveForm.Text
