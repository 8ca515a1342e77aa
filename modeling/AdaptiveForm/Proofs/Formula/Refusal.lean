import AdaptiveForm.Proofs.Formula.Parsing
import AdaptiveForm.Proofs.Text.Refusal

/-!
# Where a formula is refused

From every state the reader can come to an end: an operand or the last cell of a range is supplied
where one is missing, and then as many parentheses as are open.  A closing parenthesis finds its
opening one because `settle 0` takes all that waits above it.  So what has been read without a
fault can be continued to a formula, and the reader reports the first token with which no formula
can go on.
-/

namespace AdaptiveForm.Formula

open AdaptiveForm.Text (FirstImpossible Completes Ends GoesOn Runs)

def IsFormula (kinds : List Kind) : Prop :=
  ∃ e, Derives .comparison kinds e

theorem isFormula_iff {kinds : List Kind} :
    IsFormula kinds ↔ Completes Reading.step Reading.finish Reading.start kinds := by
  constructor
  · rintro ⟨-, d, rfl, rfl⟩
    obtain ⟨last, hs, hf⟩ := d.steps_finish
    exact ⟨last, hs, d.expr, hf⟩
  · rintro ⟨last, hs, e, hf⟩
    exact ⟨e, (Read.start.steps hs).finish hf⟩

/-! ### Every state comes to an end -/

inductive AtMark : List Opened → Prop
  | start : AtMark []
  | group (outer : List Opened) : AtMark (.group :: outer)
  | call (function : String) (args : List Expr) (outer : List Opened) :
      AtMark (.call function args :: outer)

/-- A closing mark takes everything down to an opening mark. -/
theorem settle_zero (opened : List Opened) (e : Expr) :
    AtMark (settle 0 opened e).2 ∧ (settle 0 opened e).2.length ≤ opened.length := by
  induction opened generalizing e with
  | nil => exact ⟨.start, Nat.le_refl _⟩
  | cons top opened ih =>
    cases top with
    | sign op =>
      obtain ⟨hmark, hle⟩ := ih (.unary op e)
      exact ⟨hmark, Nat.le_succ_of_le hle⟩
    | left operand op =>
      obtain ⟨hmark, hle⟩ := ih (.binary op operand e)
      rw [settle, if_pos (Nat.zero_le _)]
      exact ⟨hmark, Nat.le_succ_of_le hle⟩
    | group => exact ⟨.group opened, Nat.le_refl _⟩
    | call function args => exact ⟨.call function args opened, Nat.le_refl _⟩

/-- Behind a complete operand closing parentheses lead to the end. -/
theorem Complete.ends {e : Expr} {opened : List Opened} {reading : Reading}
    (h : Complete e opened reading) : Ends Reading.step Reading.finish reading := by
  -- every closing parenthesis leaves less open than there was
  induction hn : opened.length using Nat.strong_induction_on generalizing e opened reading with
  | _ n ih =>
    subst hn
    obtain ⟨hmark, hle⟩ := settle_zero opened e
    have hclose := h.step .rightParen (by simp) (by simp)
    cases hsettle : settle 0 opened e with
    | mk inner rest =>
      rw [hsettle] at hmark hle
      cases hmark with
      | start =>
        have hfinish : reading.finish = .ok inner := by rw [h.finish, finishAfter, hsettle]
        exact .of_finish hfinish
      | group outer =>
        exact .of_step (hclose.trans (readAfter_group hsettle)) (ih _ hle .operand rfl)
      | call function args outer =>
        exact .of_step (hclose.trans (readAfter_call hsettle)) (ih _ hle .operand rfl)

/-- **From every state the reader can come to the end of a formula.** -/
theorem Reading.ends (reading : Reading) : Ends Reading.step Reading.finish reading := by
  obtain ⟨phase, opened⟩ := reading
  have operand : ∀ {phase}, Opens phase → Ends Reading.step Reading.finish ⟨phase, opened⟩ :=
    fun hopens =>
      have hnumber := hopens.step opened (show Kind.number "0" ≠ .rightParen by simp)
      .of_step hnumber Complete.operand.ends
  cases phase with
  | operand => exact operand .operand
  | argument => exact operand .argument
  | ident name => exact (Complete.ident name rfl).ends
  | rangeEnd first =>
    have hcell : Cell.ofName? "a1" = some ⟨"a", 1⟩ := by decide +kernel
    have hend : Reading.step ⟨.rangeEnd first, opened⟩ (.ident "a1") =
        .ok ⟨.complete (.range first ⟨"a", 1⟩), opened⟩ := by
      simp only [Reading.step, hcell]
    exact .of_step hend Complete.operand.ends
  | complete e => exact Complete.operand.ends

theorem Reading.goesOn : GoesOn Reading.step Reading.finish Reading.start IsFormula where
  accepted _ := isFormula_iff
  ends := Reading.ends

/-! ### The position that is shown -/

def positionOf (size : Nat) : List Token → Nat
  | [] => size
  | token :: _ => token.position

theorem Reading.runs (size : Nat) : Runs Reading.step Reading.finish Token.kind
    (fun left => .malformed (positionOf size left)) (Reading.run size) where
  nil reading := by
    rw [Reading.run]
    cases reading.finish <;> rfl
  cons reading token left := by
    rw [Reading.run]
    cases reading.step token.kind <;> rfl

/-- The position of the token at `i`, or that of the end behind the last one. -/
def Scan.position (scanned : Scan) (i : Nat) : Nat :=
  positionOf scanned.size (scanned.tokens.drop i)

/-- **A formula is refused at its first impossible token.** When its characters make tokens and the
tokens no formula, the error shows the one token, or the end, for which those before it can be
continued to a formula, and those through it cannot. -/
theorem parse_error_position {formula : String} {scanned : Scan} {e : Error}
    (hscan : scan formula = .ok scanned) (h : Expr.parse formula = .error e) :
    ∃ i fault, e = .malformed (scanned.position i) fault ∧
      ∀ j, FirstImpossible IsFormula scanned.kinds j ↔ j = i := by
  rw [parse_of_scan hscan] at h
  exact (Reading.runs scanned.size).firstImpossible Reading.goesOn h

theorem parse_error_position_range :
    Expr.parse "sum(b2:c)" = .error (.malformed 7 .expectedCell) ∧
      ∃ scanned i, scan "sum(b2:c)" = .ok scanned ∧ scanned.position i = 7 ∧
        FirstImpossible IsFormula scanned.kinds i := by
  have hscan : scan "sum(b2:c)" = .ok ⟨[⟨0, .ident "sum"⟩, ⟨3, .leftParen⟩, ⟨4, .ident "b2"⟩,
      ⟨6, .colon⟩, ⟨7, .ident "c"⟩, ⟨8, .rightParen⟩], 9⟩ := by with_unfolding_all rfl
  have hparse : Expr.parse "sum(b2:c)" = .error (.malformed 7 .expectedCell) := by
    rw [parse_of_scan hscan]
    rfl
  obtain ⟨i, fault, he, hfirst⟩ := parse_error_position hscan hparse
  obtain ⟨hposition, -⟩ := Error.malformed.inj he
  exact ⟨hparse, _, i, hscan, hposition.symm, (hfirst i).mpr rfl⟩

end AdaptiveForm.Formula
