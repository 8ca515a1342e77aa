import AdaptiveForm.Formula.Scan
import AdaptiveForm.Proofs.Text.Split
import Mathlib.Data.List.TakeWhile

/-!
# Numbers of a formula

A number is digits, a fraction and an exponent, each of which may be missing.  What the scanner
takes as the number at the head of some characters has these parts, `exists_parts`, and it takes
such parts as a whole in front of everything that none of them goes on with, `numberWidth_append`.
So a number is taken alike wherever it stands.
-/

namespace AdaptiveForm.Formula

open AdaptiveForm.Text

/-- Nothing, or a point and digits after it, of which there may be none. -/
inductive Fraction : List Char → Prop
  | none : Fraction []
  | point {ds : List Char} (h : ∀ d ∈ ds, d.isDigit = true) : Fraction ('.' :: ds)

/-- Nothing, or `e`, an optional sign and digits. -/
inductive Exponent : List Char → Prop
  | none : Exponent []
  | unsigned {d : Char} {ds : List Char} (h : ∀ c ∈ d :: ds, c.isDigit = true) :
      Exponent ('e' :: d :: ds)
  | signed {sign d : Char} {ds : List Char} (hs : sign = '+' ∨ sign = '-')
      (h : ∀ c ∈ d :: ds, c.isDigit = true) : Exponent ('e' :: sign :: d :: ds)

/-- The parts of a number: a digit stands before the exponent. -/
structure Parts (whole fraction exponent : List Char) : Prop where
  digits : ∀ d ∈ whole, d.isDigit = true
  isFraction : Fraction fraction
  isExponent : Exponent exponent
  hasDigit : whole ≠ [] ∨ 2 ≤ fraction.length

/-- No part of a number goes on with these characters. -/
def EndsNumber (rest : List Char) : Prop :=
  ∀ c ∈ rest.head?, c.isDigit = false ∧ c ≠ '.' ∧ c ≠ 'e'

variable {rest : List Char}

/-! ### The width of each part -/

theorem digitWidth_append {ds : List Char} (h : ∀ d ∈ ds, d.isDigit = true)
    (hr : ∀ c ∈ rest.head?, c.isDigit = false) : digitWidth (ds ++ rest) = ds.length := by
  rw [digitWidth, takeWhile_append_ends h hr]

theorem fractionWidth_append {fraction : List Char} (h : Fraction fraction)
    (hr : ∀ c ∈ rest.head?, c.isDigit = false ∧ c ≠ '.') :
    fractionWidth (fraction ++ rest) = fraction.length := by
  cases h with
  | none =>
    unfold fractionWidth
    split
    · exact absurd rfl (hr '.' (by simp_all)).2
    · rfl
  | point h =>
    rw [List.cons_append, fractionWidth, digitWidth_append h fun c hc => (hr c hc).1,
      List.length_cons, Nat.add_comm]

theorem exponentWidth_append {exponent : List Char} (h : Exponent exponent)
    (hr : ∀ c ∈ rest.head?, c.isDigit = false ∧ c ≠ 'e') :
    exponentWidth (exponent ++ rest) = exponent.length := by
  have hdigits : ∀ {ds : List Char}, (∀ d ∈ ds, d.isDigit = true) →
      digitWidth (ds ++ rest) = ds.length := fun h => digitWidth_append h fun c hc => (hr c hc).1
  cases h with
  | none =>
    unfold exponentWidth
    split
    · exact absurd rfl (hr 'e' (by simp_all)).2
    · rfl
  | @unsigned d ds h =>
    have hsign : d ≠ '+' ∧ d ≠ '-' := by
      have hd := h d List.mem_cons_self
      constructor <;> rintro rfl <;> cases hd
    have hwidth : signedDigitWidth (d :: ds ++ rest) = ds.length + 1 := by
      rw [signedDigitWidth.eq_def]
      split
      · simp_all
      · simp_all
      · exact hdigits h
    rw [List.cons_append, exponentWidth, hwidth, if_neg (by omega)]
    simp
    omega
  | @signed sign d ds hs h =>
    have hwidth : signedDigitWidth (sign :: d :: ds ++ rest) = ds.length + 2 := by
      rcases hs with rfl | rfl <;>
        rw [List.cons_append, signedDigitWidth, hdigits h, List.length_cons,
          if_neg (by omega), Nat.add_comm]
    rw [List.cons_append, exponentWidth, hwidth, if_neg (by omega)]
    simp
    omega

theorem Exponent.head? {exponent : List Char} (h : Exponent exponent) (hr : EndsNumber rest) :
    ∀ c ∈ (exponent ++ rest).head?, c.isDigit = false ∧ c ≠ '.' := by
  cases h with
  | none => exact fun c hc => ⟨(hr c hc).1, (hr c hc).2.1⟩
  | unsigned => simp
  | signed => simp

theorem Fraction.head? {fraction : List Char} (h : Fraction fraction)
    (hr : ∀ c ∈ rest.head?, c.isDigit = false) :
    ∀ c ∈ (fraction ++ rest).head?, c.isDigit = false := by
  cases h with
  | none => exact hr
  | point => simp

variable {whole fraction exponent : List Char}

/-- **A number is taken as a whole** in front of what it does not go on with. -/
theorem Parts.numberWidth_append (h : Parts whole fraction exponent) (hr : EndsNumber rest) :
    numberWidth (whole ++ fraction ++ exponent ++ rest) =
      (whole ++ fraction ++ exponent).length := by
  have hexponent := h.isExponent.head? hr
  have hfraction := h.isFraction.head? fun c hc => (hexponent c hc).1
  simp only [List.append_assoc]
  rw [numberWidth, digitWidth_append h.digits hfraction, List.drop_left,
    fractionWidth_append h.isFraction hexponent, ← List.append_assoc, ← List.length_append,
    List.drop_left, exponentWidth_append h.isExponent fun c hc => ⟨(hr c hc).1, (hr c hc).2.2⟩]
  simp [Nat.add_assoc]

/-! ### The parts of what is taken -/

theorem take_digitWidth (cs : List Char) : cs.take (digitWidth cs) = cs.takeWhile Char.isDigit :=
  (List.prefix_iff_eq_take.mp (List.takeWhile_prefix _)).symm

theorem isDigit_of_mem_take {cs : List Char} {d : Char} (h : d ∈ cs.take (digitWidth cs)) :
    d.isDigit = true := by
  rw [take_digitWidth] at h
  exact List.mem_takeWhile_imp h

theorem fraction_take (cs : List Char) : Fraction (cs.take (fractionWidth cs)) := by
  unfold fractionWidth
  split
  · rw [Nat.add_comm, List.take_succ_cons]
    exact .point fun d hd => isDigit_of_mem_take hd
  · exact .none

theorem digits_take {cs : List Char} (h : digitWidth cs ≠ 0) :
    ∃ d ds, cs.take (digitWidth cs) = d :: ds ∧ ∀ c ∈ d :: ds, c.isDigit = true := by
  cases htake : cs.take (digitWidth cs) with
  | nil =>
    rw [take_digitWidth] at htake
    rw [digitWidth, htake] at h
    exact absurd rfl h
  | cons d ds => exact ⟨d, ds, rfl, fun c hc => isDigit_of_mem_take (htake ▸ hc)⟩

theorem exponent_take (cs : List Char) : Exponent (cs.take (exponentWidth cs)) := by
  unfold exponentWidth
  split
  · rename_i cs
    split_ifs with hzero
    · exact .none
    rw [Nat.add_comm, List.take_succ_cons]
    revert hzero
    unfold signedDigitWidth
    split
    case _ | _ =>
      intro hzero
      split_ifs at hzero ⊢ with hdigits
      · exact absurd rfl hzero
      obtain ⟨d, ds, htake, hall⟩ := digits_take hdigits
      rw [Nat.add_comm, List.take_succ_cons, htake]
      exact .signed (by simp) hall
    case _ =>
      intro hzero
      obtain ⟨d, ds, htake, hall⟩ := digits_take hzero
      rw [htake]
      exact .unsigned hall
  · exact .none

theorem digitWidth_le_length (cs : List Char) : digitWidth cs ≤ cs.length :=
  (List.takeWhile_prefix _).length_le

theorem fractionWidth_le_length (cs : List Char) : fractionWidth cs ≤ cs.length := by
  unfold fractionWidth
  split
  · rename_i cs
    have := digitWidth_le_length cs
    rw [List.length_cons]
    omega
  · exact Nat.zero_le _

theorem signedDigitWidth_le_length (cs : List Char) : signedDigitWidth cs ≤ cs.length := by
  unfold signedDigitWidth
  split
  case _ cs | _ cs =>
    have := digitWidth_le_length cs
    split_ifs <;> simp
    omega
  case _ => exact digitWidth_le_length _

theorem exponentWidth_le_length (cs : List Char) : exponentWidth cs ≤ cs.length := by
  unfold exponentWidth
  split
  · rename_i cs
    have := signedDigitWidth_le_length cs
    split_ifs <;> simp
    omega
  · exact Nat.zero_le _

theorem numberWidth_le_length (cs : List Char) : numberWidth cs ≤ cs.length := by
  have hwhole := digitWidth_le_length cs
  have hfraction := fractionWidth_le_length (cs.drop (digitWidth cs))
  have hexponent := exponentWidth_le_length
    (cs.drop (digitWidth cs + fractionWidth (cs.drop (digitWidth cs))))
  simp only [List.length_drop] at hfraction hexponent
  rw [numberWidth]
  omega

theorem exists_parts {c : Char} {cs : List Char}
    (h : (c.isDigit || (c == '.' && 0 < digitWidth cs)) = true) :
    ∃ whole fraction exponent, Parts whole fraction exponent ∧
      (c :: cs).take (numberWidth (c :: cs)) = whole ++ fraction ++ exponent := by
  let behind := (c :: cs).drop (digitWidth (c :: cs))
  refine ⟨(c :: cs).take (digitWidth (c :: cs)), behind.take (fractionWidth behind),
    (behind.drop (fractionWidth behind)).take (exponentWidth (behind.drop (fractionWidth behind))),
    ?_, ?_⟩
  · refine ⟨fun d hd => isDigit_of_mem_take hd, fraction_take _, exponent_take _, ?_⟩
    by_cases hc : c.isDigit = true
    · left
      rw [take_digitWidth, List.takeWhile_cons_of_pos hc]
      exact List.cons_ne_nil _ _
    · right
      simp only [hc, Bool.false_or, Bool.and_eq_true, beq_iff_eq, decide_eq_true_eq] at h
      obtain ⟨rfl, hwidth⟩ := h
      have hle := digitWidth_le_length cs
      have hbehind : behind = '.' :: cs := by simp [behind, digitWidth]
      rw [hbehind, fractionWidth, List.length_take, List.length_cons]
      omega
  · rw [numberWidth, List.take_add, List.take_add, List.drop_drop]

theorem Parts.head (h : Parts whole fraction exponent) (hr : EndsNumber rest) {c : Char}
    {cs : List Char} (hcs : whole ++ fraction ++ exponent ++ rest = c :: cs) :
    (c.isDigit || (c == '.' && 0 < digitWidth cs)) = true := by
  cases whole with
  | cons d ds =>
    obtain rfl : d = c := (List.cons.inj hcs).1
    rw [h.digits d List.mem_cons_self, Bool.true_or]
  | nil =>
    have hexponent := h.isExponent.head? hr
    have hlength := h.hasDigit.resolve_left (not_not_intro rfl)
    cases h.isFraction with
    | none => simp at hlength
    | @point ds hds =>
      rw [List.nil_append, List.append_assoc, List.cons_append] at hcs
      obtain ⟨rfl, rfl⟩ := List.cons.inj hcs
      rw [digitWidth_append hds fun c hc => (hexponent c hc).1]
      simp at hlength
      simp
      omega

end AdaptiveForm.Formula
