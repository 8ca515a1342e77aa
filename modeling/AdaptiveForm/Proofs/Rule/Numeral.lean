import AdaptiveForm.Proofs.Formula.Spelling
import AdaptiveForm.Proofs.Rule.Emission
import AdaptiveForm.Proofs.Rule.Soundness
import Mathlib.Data.List.TakeWhile

/-!
# Numbers of a formula in a rule

The number of a formula is copied into its rule.  But a number of a formula is digits, a fraction
and an exponent, and may begin with the point, while a number of a rule is a digit and the digits
and points behind it.  So the copy is one number of the rule if it is a numeral, digits and a
fraction, and not otherwise, `number_reads_iff`: a point at its head is a dot, and its exponent is a
name.
-/

namespace AdaptiveForm.Rule

open AdaptiveForm.Text
open AdaptiveForm.Formula (Expr Parts Fraction Exponent)

/-- In front of `rest` the digits are read as one number, and nothing else is. -/
def ReadsAsNumber (digits : String) (rest : List Char) : Prop :=
  ∃ c cs, digits.toList = c :: cs ∧ isSpace c = false ∧
    headToken c (cs ++ rest) = .ok (.number, cs.length)

variable {digits : String} {whole fraction exponent : List Char}

/-! ### Numerals and other numbers -/

theorem isNumeral_of_parts (hw : ∀ d ∈ whole, d.isDigit = true) (hne : whole ≠ [])
    (hf : Fraction fraction) (hd : digits.toList = whole ++ fraction) :
    isNumeral digits = true := by
  have hbehind : ∀ c ∈ fraction.head?, c.isDigit = false := by
    cases hf <;> simp
  rw [isNumeral, hd, takeWhile_append_ends hw hbehind, dropWhile_append_ends hw hbehind]
  cases hf with
  | none => simpa using hne
  | point h => simpa using ⟨hne, h⟩

/-- A number of a formula is a numeral, or it begins with the point, or an exponent stands behind
the digits and points that it begins with. -/
theorem isNumeral_or (h : Parts whole fraction exponent)
    (hd : digits.toList = whole ++ fraction ++ exponent) :
    isNumeral digits = true ∨ (∃ cs, digits.toList = '.' :: cs) ∨
      ∃ c cs tail, digits.toList = c :: cs ++ 'e' :: tail ∧ c.isDigit = true ∧
        ∀ d ∈ cs, isNumberPart d = true := by
  cases whole with
  | nil =>
    have hlength := h.hasDigit.resolve_left (not_not_intro rfl)
    cases h.isFraction with
    | none => simp at hlength
    | @point ds => exact .inr (.inl ⟨ds ++ exponent, hd⟩)
  | cons c cs =>
    by_cases hexponent : exponent = []
    · subst hexponent
      rw [List.append_nil] at hd
      exact .inl (isNumeral_of_parts h.digits (List.cons_ne_nil c cs) h.isFraction hd)
    · obtain ⟨tail, rfl⟩ : ∃ tail, exponent = 'e' :: tail := by
        cases h.isExponent with
        | none => exact absurd rfl hexponent
        | unsigned => exact ⟨_, rfl⟩
        | signed => exact ⟨_, rfl⟩
      refine .inr (.inr ⟨c, cs ++ fraction, tail, hd, h.digits c List.mem_cons_self, ?_⟩)
      intro d hd
      rcases List.mem_append.mp hd with hd | hd
      · exact isNumberPart_of_isDigit (h.digits d (List.mem_cons_of_mem c hd))
      · cases h.isFraction with
        | none => cases hd
        | point hdigits =>
          rcases List.mem_cons.mp hd with rfl | hd
          · rfl
          · exact isNumberPart_of_isDigit (hdigits d hd)

/-! ### Reading a number -/

/-- **A number of a formula is one number of a rule if it is a numeral**, and not otherwise. -/
theorem readsAsNumber_iff (h : Parts whole fraction exponent)
    (hd : digits.toList = whole ++ fraction ++ exponent) {rest : List Char}
    (hr : ∀ c ∈ rest.head?, isNumberPart c = false) :
    ReadsAsNumber digits rest ↔ isNumeral digits = true := by
  constructor
  · rintro ⟨c, cs, hcs, -, hhead⟩
    rcases isNumeral_or h hd with hnumeral | ⟨ds, hds⟩ | ⟨d, ds, tail, hds, hdigit, hpart⟩
    · exact hnumeral
    · obtain ⟨rfl, rfl⟩ := List.cons.inj (hcs.symm.trans hds)
      rw [headToken_mark (c := '.') rfl (by decide)] at hhead
      cases hhead
    · rw [List.cons_append] at hds
      obtain ⟨rfl, rfl⟩ := List.cons.inj (hcs.symm.trans hds)
      have htake : (ds ++ 'e' :: tail ++ rest).takeWhile isNumberPart = ds := by
        rw [List.append_assoc]
        exact takeWhile_append_ends hpart (by simp; decide)
      rw [headToken_digit hdigit, htake] at hhead
      simp at hhead
  · intro hnumeral
    obtain ⟨c, cs, hcs, hc, hpart⟩ := isNumeral_toList hnumeral
    refine ⟨c, cs, hcs, isSpace_of_isDigit hc, ?_⟩
    rw [headToken_digit hc, takeWhile_append_ends hpart hr]

theorem lexemes_exponent (tail : List Char) :
    ∃ name rest, lexemes ('e' :: tail) = (lexemes rest).map (.ident name :: ·) := by
  have hname : ∀ d ∈ tail.takeWhile isWordPart, isWordPart d = true :=
    fun d hd => List.mem_takeWhile_imp hd
  have hrest : ∀ d ∈ (tail.dropWhile isWordPart).head?, isWordPart d = false := by
    intro d hd
    have := List.head?_dropWhile_not isWordPart tail
    rwa [hd] at this
  have hword := lexemes_word (c := 'e') (by decide) (by decide) (by decide) (by decide) hname hrest
  rw [List.cons_append, List.takeWhile_append_dropWhile, if_neg (by decide)] at hword
  exact ⟨_, _, hword⟩

/-- **As a rule of its own a number passes the check if it is a numeral**, and not otherwise: no
rule begins with a dot, and behind an operand there is no name. -/
theorem check_number_iff (h : Parts whole fraction exponent)
    (hd : digits.toList = whole ++ fraction ++ exponent) :
    check digits = .ok () ↔ isNumeral digits = true := by
  constructor
  · intro hcheck
    obtain ⟨ls, next, hls, hs⟩ := steps_of_check hcheck
    rcases isNumeral_or h hd with hnumeral | ⟨cs, hcs⟩ | ⟨c, cs, tail, hcs, hc, hpart⟩
    · exact hnumeral
    · rw [hcs, lexemes_mark (c := '.') rfl (by decide)] at hls
      obtain ⟨ls, -, rfl⟩ := Option.map_eq_some_iff.mp hls
      obtain ⟨between, hdot, -⟩ := Checking.exists_step_of_steps hs
      cases hdot
    · obtain ⟨name, rest, hname⟩ := lexemes_exponent tail
      rw [hcs, lexemes_number hc hpart (by simp; decide), hname, Option.map_map] at hls
      obtain ⟨ls, -, rfl⟩ := Option.map_eq_some_iff.mp hls
      obtain ⟨between, hnumber, hs⟩ := Checking.exists_step_of_steps hs
      cases hnumber
      obtain ⟨after, hname, -⟩ := Checking.exists_step_of_steps hs
      cases hname
  · intro hnumeral
    have hpaths : PathsOnly fun _ => none := nofun
    exact check_exprText (e := .number digits) hpaths hnumeral rfl

/-- **Numbers of formulas and rules.** In front of everything with which no number of a rule goes
on, a number of a formula is read as one number of a rule if it is a numeral, and not otherwise. A
formula that is a numeral is its own rule, and one that is another number is refused by the
check. -/
theorem number_reads_iff {formula : String} {scanned : Formula.Scan}
    (h : Formula.scan formula = .ok scanned) {digits : String}
    (hd : .number digits ∈ scanned.kinds) :
    (∀ rest : List Char, (∀ c ∈ rest.head?, isNumberPart c = false) →
      (ReadsAsNumber digits rest ↔ isNumeral digits = true)) ∧
    ∀ paths cell, normalizeFormula cell = formula → scanned.kinds = [.number digits] →
      (isNumeral digits = true → compile paths true cell = .ok digits) ∧
      (isNumeral digits = false → ∃ e, compile paths true cell = .error (.refused e)) := by
  obtain ⟨whole, fraction, exponent, hparts, hdigits⟩ := Formula.parts_of_scan h hd
  refine ⟨fun rest hr => readsAsNumber_iff hparts hdigits hr, ?_⟩
  rintro paths cell rfl hkinds
  have hparse : Expr.parse (normalizeFormula cell) = .ok (.number digits) :=
    Formula.parse_of_primary h ⟨.number digits, hkinds.symm, rfl⟩
  have hemit : emit paths (normalizeFormula cell) = .ok digits := by
    rw [emit, hparse]
    rfl
  have hcheck := check_number_iff hparts hdigits
  rw [compile, hemit]
  constructor
  · intro hnumeral
    simp only [if_true, hcheck.mpr hnumeral]
  · intro hnumeral
    rw [← Bool.not_eq_true, ← hcheck] at hnumeral
    cases hrefused : check digits with
    | error e => exact ⟨e, by simp only [if_true, hrefused]⟩
    | ok => exact absurd hrefused hnumeral

theorem number_reads_iff_price :
    ReadsAsNumber "12.50" [')'] ∧ compile (fun _ => none) true "=12.50" = .ok "12.50" := by
  have hscan : Formula.scan "12.50" = .ok ⟨[⟨0, .number "12.50"⟩], 5⟩ := by
    with_unfolding_all rfl
  have hnormal : normalizeFormula "=12.50" = "12.50" := rfl
  obtain ⟨hreads, hcompile⟩ := number_reads_iff hscan (List.mem_singleton_self _)
  have hbracket : ∀ c ∈ [')'].head?, isNumberPart c = false := by
    simp
    decide
  exact ⟨(hreads [')'] hbracket).mpr (by decide),
    (hcompile (fun _ => none) "=12.50" hnormal rfl).1 (by decide)⟩

/-- **A number with an exponent and one that begins with the point are no rules.** Formulas have
both, in front of the end of the rule no number is read of them, and the check refuses them. -/
theorem number_not_reads :
    Expr.parse (normalizeFormula "=1e3") = .ok (.number "1e3") ∧ ¬ ReadsAsNumber "1e3" [] ∧
    compile (fun _ => none) false "=1e3" = .ok "1e3" ∧
    compile (fun _ => none) true "=1e3" = .error (.refused (.refused 1 .trailing)) ∧
    Expr.parse (normalizeFormula "=.5") = .ok (.number ".5") ∧ ¬ ReadsAsNumber ".5" [] ∧
    compile (fun _ => none) false "=.5" = .ok ".5" ∧
    compile (fun _ => none) true "=.5" = .error (.refused (.refused 0 .expectedOperand)) := by
  refine ⟨by with_unfolding_all rfl, ?_, by with_unfolding_all rfl, by with_unfolding_all rfl,
    by with_unfolding_all rfl, ?_, by with_unfolding_all rfl, by with_unfolding_all rfl⟩
  · rintro ⟨c, cs, hcs, -, hhead⟩
    obtain ⟨rfl, rfl⟩ := List.cons.inj (hcs.symm.trans (rfl : _ = ['1', 'e', '3']))
    revert hhead
    decide
  · rintro ⟨c, cs, hcs, -, hhead⟩
    obtain ⟨rfl, rfl⟩ := List.cons.inj (hcs.symm.trans (rfl : _ = ['.', '5']))
    revert hhead
    decide

end AdaptiveForm.Rule
