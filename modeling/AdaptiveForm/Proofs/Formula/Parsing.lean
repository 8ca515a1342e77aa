import AdaptiveForm.Proofs.Formula.Soundness

/-!
# Reading a formula is deriving it

The reader accepts the token lists that the grammar derives and no others, and gives the
expression of the derivation, of which there is one only.  Writing the expression out gives the
tokens back, but for the pins of its cells.
-/

namespace AdaptiveForm.Formula

def Scan.kinds (scanned : Scan) : List Kind :=
  scanned.tokens.map Token.kind

theorem parse_of_scan {formula : String} {scanned : Scan} (h : scan formula = .ok scanned) :
    Expr.parse formula = Reading.start.run scanned.size scanned.tokens := by
  rw [Expr.parse, h]
  rfl

theorem parse_eq_ok_iff {formula : String} {scanned : Scan} (h : scan formula = .ok scanned)
    (e : Expr) : Expr.parse formula = .ok e ↔ Derives .comparison scanned.kinds e := by
  rw [parse_of_scan h, Reading.run_eq_ok_iff]
  constructor
  · rintro ⟨next, hs, hf⟩
    exact (Read.start.steps hs).finish hf
  · rintro ⟨d, hd, rfl⟩
    rw [Scan.kinds] at hd
    rw [← hd]
    exact d.steps_finish

/-- The tokens of a formula have one derivation at most. -/
theorem Derivation.eq_of_tokens_eq {d d' : Derivation .comparison} (h : d.tokens = d'.tokens) :
    d = d' := by
  obtain ⟨next, hs, hf⟩ := d.steps_finish
  obtain ⟨next', hs', hf'⟩ := d'.steps_finish
  rw [h, hs'] at hs
  cases hs
  exact Derivation.eq_of_expr_eq d d' (Except.ok.inj (hf.symm.trans hf')) h

/-- **A formula is read exactly when the grammar derives its tokens**, as the expression of the one
derivation that they have; written out again, the expression has these tokens, but for pins. -/
theorem parse_iff_derivation {formula : String} {scanned : Scan}
    (h : scan formula = .ok scanned) (e : Expr) :
    (Expr.parse formula = .ok e ↔
      ∃ d : Derivation .comparison, d.tokens = scanned.kinds ∧ d.expr = e) ∧
    (∀ d d' : Derivation .comparison, d.tokens = scanned.kinds → d'.tokens = scanned.kinds →
      d = d') ∧
    (Expr.parse formula = .ok e → List.Forall₂ SameButPins scanned.kinds e.tokens) := by
  have hparse := parse_eq_ok_iff h e
  refine ⟨hparse, ?_, ?_⟩
  · intro d d' hd hd'
    exact Derivation.eq_of_tokens_eq (hd.trans hd'.symm)
  · intro hok
    obtain ⟨d, hd, rfl⟩ := hparse.mp hok
    rw [← hd]
    exact d.tokens_expr

theorem parse_iff_derivation_power :
    let e := Expr.binary .add (.number "2") (.binary .mul (.cell ⟨"b", 2⟩)
      (.binary .pow (.cell ⟨"b", 3⟩) (.unary .neg (.percent (.number "1")))))
    ∃ scanned, scan "2+b2*$b$3^-1%" = .ok scanned ∧
      ∃ d : Derivation .comparison, d.tokens = scanned.kinds ∧ d.expr = e := by
  intro e
  have hscan : scan "2+b2*$b$3^-1%" = .ok ⟨[⟨0, .number "2"⟩, ⟨1, .plus⟩, ⟨2, .ident "b2"⟩,
      ⟨4, .star⟩, ⟨5, .ident "$b$3"⟩, ⟨9, .caret⟩, ⟨10, .minus⟩, ⟨11, .number "1"⟩,
      ⟨12, .percent⟩], 13⟩ := by with_unfolding_all rfl
  have hparse : Expr.parse "2+b2*$b$3^-1%" = .ok e := by rw [parse_of_scan hscan]; rfl
  exact ⟨_, hscan, (parse_iff_derivation hscan e).1.mp hparse⟩

end AdaptiveForm.Formula
