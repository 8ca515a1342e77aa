import AdaptiveForm.Proofs.Formula.Pins

/-!
# A derivation is determined by its expression and its tokens

The level of an expression is that of its outermost operator.  A derivation at a level never
stands for an expression of a looser level (`Derivation.rank_le`), so the expression tells where
a derivation passes on to the next level and where it uses an operator.  The tokens are then cut
at places that depend on the expressions alone, since pins do not change the number of tokens.
-/

namespace AdaptiveForm.Formula

def Expr.level : Expr → Level
  | .binary op _ _ => op.level
  | .unary _ _ => .unary
  | .percent _ => .suffixed
  | _ => .primary

theorem Level.rank_le_primary (level : Level) : level.rank ≤ Level.primary.rank := by
  cases level <;> decide

theorem Derivation.rank_le {level : Level} (d : Derivation level) :
    level.rank ≤ d.expr.level.rank := by
  cases d with
  | binary op hop => exact Nat.le_of_eq (congrArg Level.rank hop.symm)
  | lift ht inner =>
    have hi := inner.rank_le
    rw [rank_tighter ht] at hi
    exact Nat.le_of_succ_le hi
  | _ => exact Nat.le_refl _

theorem Derivation.expr_level_ne {level tighter : Level} (ht : level.tighter? = some tighter)
    (d : Derivation tighter) : d.expr.level ≠ level := by
  intro he
  have hd := d.rank_le
  rw [he, rank_tighter ht] at hd
  omega

/-- The number of tokens depends on the expression alone. -/
theorem Derivation.length_tokens {level level' : Level} {d : Derivation level}
    {d' : Derivation level'} (h : d.expr = d'.expr) : d.tokens.length = d'.tokens.length := by
  rw [d.tokens_expr.length_eq, h, d'.tokens_expr.length_eq]

mutual

/-- **A derivation is determined by its expression and its tokens.** -/
theorem Derivation.eq_of_expr_eq : ∀ {level : Level} (d d' : Derivation level),
    d.expr = d'.expr → d.tokens = d'.tokens → d = d'
  | _, .binary op hop ht left right, d', he, hts => by
    cases d' with
    | binary op' hop' ht' left' right' =>
      simp only [Derivation.expr, Expr.binary.injEq] at he
      obtain ⟨rfl, hl, hr⟩ := he
      obtain rfl := Option.some.inj (ht.symm.trans ht')
      simp only [Derivation.tokens] at hts
      obtain ⟨hlt, hrt⟩ := List.append_inj hts (Derivation.length_tokens hl)
      rw [Derivation.eq_of_expr_eq left left' hl hlt,
        Derivation.eq_of_expr_eq right right' hr (List.cons.inj hrt).2]
    | lift ht' inner =>
      exact absurd ((congrArg Expr.level he).symm.trans hop) (inner.expr_level_ne ht')
    | _ => simp [Derivation.expr] at he
  | _, .lift ht inner, d', he, hts => by
    cases d' with
    | binary op' hop' ht' left' right' =>
      exact absurd ((congrArg Expr.level he).trans hop') (inner.expr_level_ne ht)
    | lift ht' inner' =>
      obtain rfl := Option.some.inj (ht.symm.trans ht')
      rw [Derivation.eq_of_expr_eq inner inner' he hts]
    | sign op' operand' => exact absurd (congrArg Expr.level he) (inner.expr_level_ne ht)
    | percent operand' => exact absurd (congrArg Expr.level he) (inner.expr_level_ne ht)
    | _ => cases ht
  | _, .sign op operand, d', he, hts => by
    cases d' with
    | sign op' operand' =>
      simp only [Derivation.expr, Expr.unary.injEq] at he
      obtain ⟨rfl, he⟩ := he
      rw [Derivation.eq_of_expr_eq operand operand' he (List.cons.inj hts).2]
    | lift ht' inner => exact absurd (congrArg Expr.level he).symm (inner.expr_level_ne ht')
    | binary => simp [Derivation.expr] at he
  | _, .percent operand, d', he, hts => by
    cases d' with
    | percent operand' =>
      simp only [Derivation.expr, Expr.percent.injEq] at he
      rw [Derivation.eq_of_expr_eq operand operand' he (List.append_inj_left' hts rfl)]
    | lift ht' inner => exact absurd (congrArg Expr.level he).symm (inner.expr_level_ne ht')
    | binary => simp [Derivation.expr] at he
  | _, .number digits, d', he, hts => by
    cases d' with
    | number => rw [(Expr.number.inj he : digits = _)]
    | lift ht' => cases ht'
    | _ => simp [Derivation.expr] at he
  | _, .text content, d', he, hts => by
    cases d' with
    | text => rw [(Expr.text.inj he : content = _)]
    | lift ht' => cases ht'
    | _ => simp [Derivation.expr] at he
  | _, .group inner, d', he, hts => by
    cases d' with
    | group inner' =>
      simp only [Derivation.expr, Expr.group.injEq] at he
      rw [Derivation.eq_of_expr_eq inner inner' he
        (List.append_inj_left' (List.cons.inj hts).2 rfl)]
    | lift ht' => cases ht'
    | _ => simp [Derivation.expr] at he
  | _, .emptyCall function, d', he, hts => by
    cases d' with
    | emptyCall => rw [(Expr.call.inj he).1]
    | call function' args' => exact absurd (Expr.call.inj he).2.symm args'.exprs_ne_nil
    | lift ht' => cases ht'
    | _ => simp [Derivation.expr] at he
  | _, .call function args, d', he, hts => by
    cases d' with
    | emptyCall => exact absurd (Expr.call.inj he).2 args.exprs_ne_nil
    | call function' args' =>
      simp only [Derivation.expr, Expr.call.injEq] at he
      obtain ⟨rfl, he⟩ := he
      rw [Arguments.eq_of_exprs_eq args args' he
        (List.append_inj_left' (List.cons.inj (List.cons.inj hts).2).2 rfl)]
    | lift ht' => cases ht'
    | _ => simp [Derivation.expr] at he
  | _, .cell name cell h, d', he, hts => by
    cases d' with
    | cell name' cell' h' =>
      simp only [Derivation.tokens, List.cons.injEq, Kind.ident.injEq, and_true] at hts
      simp only [Derivation.expr, Expr.cell.injEq] at he
      subst hts he
      rfl
    | lift ht' => cases ht'
    | _ => simp [Derivation.expr] at he
  | _, .range first last firstCell lastCell hf hl, d', he, hts => by
    cases d' with
    | range first' last' firstCell' lastCell' hf' hl' =>
      simp only [Derivation.tokens, List.cons.injEq, Kind.ident.injEq, and_true, true_and] at hts
      simp only [Derivation.expr, Expr.range.injEq] at he
      obtain ⟨rfl, rfl⟩ := hts
      obtain ⟨rfl, rfl⟩ := he
      rfl
    | lift ht' => cases ht'
    | _ => simp [Derivation.expr] at he
  | _, .bool value, d', he, hts => by
    cases d' with
    | bool => rw [(Expr.bool.inj he : value = _)]
    | lift ht' => cases ht'
    | _ => simp [Derivation.expr] at he
  | _, .name name hc ht hf, d', he, hts => by
    cases d' with
    | name name' =>
      obtain rfl : name = name' := Expr.name.inj he
      rfl
    | lift ht' => cases ht'
    | _ => simp [Derivation.expr] at he

theorem Arguments.eq_of_exprs_eq : ∀ args args' : Arguments,
    args.exprs = args'.exprs → args.tokens = args'.tokens → args = args'
  | .one arg, args', he, hts => by
    cases args' with
    | one arg' =>
      simp only [Arguments.exprs, List.cons.injEq, and_true] at he
      rw [Derivation.eq_of_expr_eq arg arg' he hts]
    | more arg' rest' => exact absurd (List.cons.inj he).2.symm rest'.exprs_ne_nil
  | .more arg rest, args', he, hts => by
    cases args' with
    | one arg' => exact absurd (List.cons.inj he).2 rest.exprs_ne_nil
    | more arg' rest' =>
      simp only [Arguments.exprs, List.cons.injEq] at he
      simp only [Arguments.tokens] at hts
      obtain ⟨hat, hrt⟩ := List.append_inj hts (Derivation.length_tokens he.1)
      rw [Derivation.eq_of_expr_eq arg arg' he.1 hat,
        Arguments.eq_of_exprs_eq rest rest' he.2 (List.cons.inj hrt).2]

end

end AdaptiveForm.Formula
