import AdaptiveForm.Proofs.Formula.Spelling
import AdaptiveForm.Proofs.Rule.Emission

/-!
# How a compiled rule begins

A rule that the compiler writes never begins with `=`, so it is never taken for a formula again.
The text of an expression begins with the text of its leftmost operand, with an opening mark or with
the name of a function.  Of these only a number is copied from the formula, and the scanner begins a
number with a digit or a point.
-/

namespace AdaptiveForm.Formula

theorem number_of_scan {formula : String} {scanned : Scan} (h : scan formula = .ok scanned)
    {digits : String} (hd : .number digits ∈ scanned.kinds) :
    digits.toList.head? ≠ some '=' := by
  obtain ⟨whole, fraction, exponent, hparts, hdigits⟩ := parts_of_scan h hd
  intro heq
  obtain ⟨cs, hcs⟩ := List.head?_eq_some_iff.mp heq
  have hend : EndsNumber [] := by simp [EndsNumber]
  have hhead := hparts.head hend (by rw [List.append_nil, ← hdigits, hcs])
  revert hhead
  simp

end AdaptiveForm.Formula

namespace AdaptiveForm.Rule

open AdaptiveForm.Formula (Expr Cell BinaryOp UnaryOp Derivation Level)

def NotFormula (text : String) : Prop :=
  text.toList.head? ≠ some '='

theorem NotFormula.append {text rest : String} (h : NotFormula text) (hr : NotFormula rest) :
    NotFormula (text ++ rest) := by
  rw [NotFormula, String.toList_append, List.head?_append]
  cases htext : text.toList.head? with
  | none => exact hr
  | some c =>
    rw [NotFormula, htext] at h
    exact h

theorem notFormula_cons {c : Char} (h : c ≠ '=') {text : String} {cs : List Char}
    (ht : text.toList = c :: cs) (rest : String) : NotFormula (text ++ rest) := by
  rw [NotFormula, String.toList_append, ht]
  simpa using h

theorem NotFormula.wrapOperand {text : String} (h : NotFormula text) (e : Expr) :
    NotFormula (wrapOperand e text) := by
  unfold Rule.wrapOperand
  split
  · rw [String.append_assoc]
    exact notFormula_cons (by decide) rfl _
  · exact h

theorem notFormula_target {function target : String} {lowering : Lowering}
    (h : lowering? function = some lowering) (ht : lowering.target? = some target) :
    NotFormula target := by
  have hall : ∀ entry ∈ lowerings, ∀ target ∈ entry.2.target?,
      target.toList.head? ≠ some '=' := by
    decide
  exact hall _ (mem_lowerings h) target ht

theorem notFormula_binaryText (op : BinaryOp) {left : String} (h : NotFormula left)
    (right : String) : NotFormula (binaryText op left right) := by
  unfold binaryText
  split
  · rw [String.append_assoc, String.append_assoc, String.append_assoc]
    exact h.append (notFormula_cons (by decide) rfl _)
  · rw [String.append_assoc, String.append_assoc, String.append_assoc]
    exact notFormula_cons (by decide) rfl _

theorem notFormula_conditionalText {args : List String} {text : String}
    (h : conditionalText args = .ok text) : NotFormula text := by
  unfold conditionalText at h
  split at h <;> cases h
  all_goals
    rw [String.append_assoc]
    exact notFormula_cons (by decide) rfl _

variable {paths : RowPaths}

theorem notFormula_call {function : String} {args : List Expr} {text : String}
    (h : exprText paths (.call function args) = .ok text) : NotFormula text := by
  rw [exprText] at h
  split at h
  · cases h
  · rename_i target hf
    obtain ⟨items, -, ⟨⟩⟩ := bind_eq_ok.mp h
    rw [String.append_assoc, String.append_assoc]
    exact (notFormula_target hf rfl).append (notFormula_cons (by decide) rfl _)
  · rename_i target hf
    obtain ⟨texts, -, ⟨⟩⟩ := bind_eq_ok.mp h
    rw [String.append_assoc, String.append_assoc]
    exact (notFormula_target hf rfl).append (notFormula_cons (by decide) rfl _)
  · obtain ⟨texts, -, h⟩ := bind_eq_ok.mp h
    exact notFormula_conditionalText h
  · obtain ⟨texts, -, ⟨⟩⟩ := bind_eq_ok.mp h
    rw [String.append_assoc]
    exact notFormula_cons (by decide) rfl _

theorem notFormula_cellPath (hp : ∀ row path, paths row = some path → NotFormula path) {cell : Cell}
    {text : String} (h : cellPath paths cell = .ok text) : NotFormula text := by
  unfold cellPath at h
  split at h
  · rename_i path hpath
    cases h
    exact hp _ _ hpath
  · cases h

/-- **The text of a derived expression does not begin with `=`** unless one of its numbers does. -/
theorem notFormula_exprText (hp : ∀ row path, paths row = some path → NotFormula path) :
    ∀ {level : Level} (d : Derivation level) {text : String},
    (∀ digits, Formula.Kind.number digits ∈ d.tokens → NotFormula digits) →
    exprText paths d.expr = .ok text → NotFormula text
  | _, .binary op _ _ left right, text, hd, h => by
    rw [Derivation.expr, exprText] at h
    obtain ⟨leftText, hleft, h⟩ := bind_eq_ok.mp h
    obtain ⟨rightText, -, ⟨⟩⟩ := bind_eq_ok.mp h
    have hleft := notFormula_exprText hp left
      (fun digits hmem => hd digits (List.mem_append_left _ hmem)) hleft
    exact notFormula_binaryText op (hleft.wrapOperand _) _
  | _, .lift _ inner, text, hd, h => notFormula_exprText hp inner hd h
  | _, .sign op operand, text, hd, h => by
    rw [Derivation.expr, exprText] at h
    obtain ⟨operandText, hoperand, ⟨⟩⟩ := bind_eq_ok.mp h
    cases op with
    | neg => exact notFormula_cons (by decide) rfl _
    | plus =>
      have hoperand := notFormula_exprText hp operand
        (fun digits hmem => hd digits (List.mem_cons_of_mem _ hmem)) hoperand
      exact hoperand.wrapOperand _
  | _, .percent operand, text, hd, h => by
    rw [Derivation.expr, exprText] at h
    obtain ⟨operandText, -, ⟨⟩⟩ := bind_eq_ok.mp h
    rw [String.append_assoc]
    exact notFormula_cons (by decide) rfl _
  | _, .number digits, text, hd, h => by
    cases h
    exact hd _ List.mem_cons_self
  | _, .text content, text, _, h => by
    cases h
    rw [quoteText, String.append_assoc]
    exact notFormula_cons (by decide) rfl _
  | _, .group inner, text, _, h => by
    rw [Derivation.expr, exprText] at h
    obtain ⟨innerText, -, ⟨⟩⟩ := bind_eq_ok.mp h
    rw [String.append_assoc]
    exact notFormula_cons (by decide) rfl _
  | _, .emptyCall function, text, _, h => notFormula_call h
  | _, .call function args, text, _, h => notFormula_call h
  | _, .cell name cell _, text, _, h => notFormula_cellPath hp h
  | _, .range _ _ first last _ _, text, _, h => by
    rw [Derivation.expr, exprText] at h
    obtain ⟨rows, -, ⟨⟩⟩ := bind_eq_ok.mp h
    rw [String.append_assoc]
    exact notFormula_cons (by decide) rfl _
  | _, .bool value, text, _, h => by
    cases h
    rw [NotFormula]
    cases value <;> decide
  | _, .name name _ _ _, text, _, h => by
    cases h

/-- **A compiled rule does not begin with `=`** where no path does. -/
theorem notFormula_of_compile (hp : ∀ row path, paths row = some path → NotFormula path)
    {validate : Bool} {cell rule : String} (h : compile paths validate cell = .ok rule) :
    NotFormula rule := by
  have hemit : emit paths (normalizeFormula cell) = .ok rule := by
    unfold compile at h
    split at h
    · cases h
    · rename_i rule' hemit
      split_ifs at h
      · split at h <;> cases h
        exact hemit
      · cases h
        exact hemit
  unfold emit at hemit
  split at hemit
  · cases hemit
  · rename_i e he
    cases hs : Formula.scan (normalizeFormula cell) with
    | error fault =>
      rw [Expr.parse, hs] at he
      cases he
    | ok scanned =>
      obtain ⟨d, htokens, rfl⟩ := (Formula.parse_eq_ok_iff hs e).mp he
      refine notFormula_exprText hp d ?_ hemit
      intro digits hmem
      rw [htokens] at hmem
      exact Formula.number_of_scan hs hmem

end AdaptiveForm.Rule
