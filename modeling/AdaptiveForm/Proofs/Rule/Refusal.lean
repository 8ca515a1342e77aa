import AdaptiveForm.Proofs.Rule.Literal
import AdaptiveForm.Proofs.Rule.Soundness
import AdaptiveForm.Proofs.Text.Refusal
import Mathlib.Tactic.SplitIfs

/-!
# Where a rule is refused

From every state the check can come to an end: what the phase asks for is supplied, and then the
brackets that are open are closed.  So the check stops at the first token with which no rule can go
on.  It shows this token, but for two faults: where a property name or a key is missing, it has
already gone past the token in its place, and shows the one behind it.
-/

namespace AdaptiveForm.Rule

open AdaptiveForm.Text (FirstImpossible Ends GoesOn Runs)

/-! ### Every state comes to an end -/

theorem Ready.ends {opened : List Bracket} {checking : Checking} (h : Ready opened checking) :
    Ends Checking.step Checking.finish checking := by
  induction opened generalizing checking with
  | nil => exact .of_finish h.finish
  | cons bracket outer ih =>
    have hclose : checking.step bracket.closing = .ok ⟨.complete, outer⟩ := by
      rw [h.step (by cases bracket <;> simp [Bracket.closing])]
      cases bracket <;> rfl
    exact .of_step hclose (ih .complete)

/-- **From every state the check can come to the end of a rule.** -/
theorem Checking.ends (checking : Checking) : Ends Checking.step Checking.finish checking := by
  obtain ⟨phase, opened⟩ := checking
  have complete : Ends Checking.step Checking.finish ⟨.complete, opened⟩ := Ready.complete.ends
  have operand : ∀ {phase}, Opens phase → Ends Checking.step Checking.finish ⟨phase, opened⟩ :=
    fun hopens =>
      have hnumber := hopens.step opened (show Kind.number ≠ .rightParen by simp) (by simp)
      .of_step hnumber complete
  have colon : Ends Checking.step Checking.finish ⟨.colon, opened⟩ :=
    .of_step (show Checking.step ⟨.colon, opened⟩ .colon = .ok _ from rfl) (operand .operand)
  cases phase with
  | operand => exact operand .operand
  | item => exact operand .item
  | property =>
    exact .of_step (show Checking.step ⟨.property, opened⟩ (.ident "") = .ok _ from rfl) complete
  | firstKey =>
    exact .of_step (show Checking.step ⟨.firstKey, opened⟩ .text = .ok _ from rfl) colon
  | key => exact .of_step (show Checking.step ⟨.key, opened⟩ .text = .ok _ from rfl) colon
  | colon => exact colon
  | word name => exact (Ready.word name).ends
  | complete => exact complete

theorem Checking.goesOn : GoesOn Checking.step Checking.finish Checking.start IsRule where
  accepted _ := isRule_iff.trans
    ⟨fun ⟨last, hs, hf⟩ => ⟨last, hs, (), hf⟩, fun ⟨last, hs, _, hf⟩ => ⟨last, hs, hf⟩⟩
  ends := Checking.ends

/-! ### Positions ascend -/

theorem width_le_length {c : Char} {cs : List Char} {kind : Kind} {width : Nat}
    (h : headToken c cs = .ok (kind, width)) : width ≤ cs.length := by
  rw [headToken] at h
  split_ifs at h with hquote hdigit hword hcontext hdouble
  · split at h
    · rename_i hwidth
      cases h
      exact quotedWidth_le_length hwidth
    · cases h
  · cases h
    exact List.IsPrefix.length_le (List.takeWhile_prefix _)
  · cases h
    exact List.IsPrefix.length_le (List.takeWhile_prefix _)
  · cases h
    exact List.IsPrefix.length_le (List.takeWhile_prefix _)
  · cases h
    cases cs with
    | nil => cases hdouble
    | cons next cs => simp
  · split at h
    · cases h
      exact Nat.zero_le _
    · cases h

def Ascending (size : Nat) : List Token → Prop
  | [] => True
  | token :: tokens => token.position < nextPosition size tokens ∧ Ascending size tokens

theorem Ascending.drop {size : Nat} {tokens : List Token} (h : Ascending size tokens) (i : Nat) :
    Ascending size (tokens.drop i) := by
  induction i generalizing tokens with
  | zero => exact h
  | succ i ih =>
    cases tokens with
    | nil => exact h
    | cons token tokens => exact ih h.2

theorem Ascending.nextPosition_le {size : Nat} {tokens : List Token} (h : Ascending size tokens) :
    nextPosition size tokens ≤ size := by
  induction tokens with
  | nil => exact Nat.le_refl _
  | cons token tokens ih => exact Nat.le_of_lt (Nat.lt_of_lt_of_le h.1 (ih h.2))

theorem Ascending.size_pos {size : Nat} {tokens : List Token} (h : Ascending size tokens)
    (hne : tokens ≠ []) : 0 < size := by
  cases tokens with
  | nil => exact absurd rfl hne
  | cons token tokens => exact Nat.lt_of_lt_of_le (Nat.zero_lt_of_lt h.1) h.2.nextPosition_le

theorem tokensFrom_ascending {position : Nat} {cs : List Char} {tokens : List Token}
    (h : tokensFrom position cs = .ok tokens) :
    position ≤ nextPosition (position + cs.length) tokens ∧
      Ascending (position + cs.length) tokens := by
  fun_induction tokensFrom position cs generalizing tokens with
  | case1 position =>
    cases h
    exact ⟨Nat.le_refl _, trivial⟩
  | case2 position c cs hspace ih =>
    obtain ⟨hle, hascending⟩ := ih h
    rw [List.length_cons, Nat.add_comm cs.length, ← Nat.add_assoc]
    exact ⟨Nat.le_of_succ_le hle, hascending⟩
  | case3 position c cs hspace fault htoken => cases h
  | case4 position c cs hspace kind width htoken e hrest ih => cases h
  | case5 position c cs hspace kind width htoken rest hrest ih =>
    cases h
    obtain ⟨hle, hascending⟩ := ih hrest
    have hwidth := width_le_length htoken
    have hsize : position + 1 + width + (cs.drop width).length = position + (c :: cs).length := by
      simp only [List.length_drop, List.length_cons]
      omega
    rw [hsize] at hle hascending
    exact ⟨Nat.le_refl _, show position < _ by omega, hascending⟩

theorem scan_ascending {rule : String} {tokens : List Token} (h : scan rule = .ok tokens) :
    Ascending rule.length tokens := by
  have hascending := (tokensFrom_ascending h).2
  rwa [Nat.zero_add] at hascending

/-! ### The position that is shown -/

/-- The position of the token at `i`, or that of the end of the rule behind the last one. -/
def tokenPosition (rule : String) (tokens : List Token) (i : Nat) : Nat :=
  nextPosition rule.length (tokens.drop i)

/-- The position that a fault is shown at when it is shown late: that of the token behind the one
that is refused, and 0 behind the end. -/
def latePosition (size : Nat) : List Token → Nat
  | [] => 0
  | _ :: after => nextPosition size after

theorem Ascending.nextPosition_ne {size : Nat} {left : List Token} (h : Ascending size left)
    (hsize : 0 < size) : nextPosition size left ≠ latePosition size left := by
  cases left with
  | nil => exact hsize.ne'
  | cons token after => exact Nat.ne_of_lt h.1

theorem Checking.runs (size : Nat) : Runs Checking.step Checking.finish Token.kind
    (fun left fault => fault.located (nextPosition size left) (latePosition size left))
    (Checking.run size) where
  nil checking := by
    rw [Checking.run]
    cases checking.finish <;> rfl
  cons checking token left := by
    rw [Checking.run]
    cases checking.step token.kind <;> rfl

/-- A missing property name or key is shown late, every other fault in its place. -/
theorem Fault.shown_of_located {fault fault' : Fault} {position late shown : Nat}
    (h : fault.located position late = .refused shown fault') (hne : position ≠ late) :
    (shown = position ↔ fault' ≠ .expectedProperty ∧ fault' ≠ .expectedKey) ∧
      (fault' = .expectedProperty ∨ fault' = .expectedKey → shown = late) := by
  cases fault <;> cases h <;> simp [hne.symm]

/-- A rule that is refused with a position has tokens, and the check stops at one of them or at the
end. -/
theorem run_of_refused {rule : String} {tokens : List Token} {position : Nat} {fault : Fault}
    (hscan : scan rule = .ok tokens) (h : check rule = .error (.refused position fault)) :
    tokens ≠ [] ∧ Checking.start.run rule.length tokens = .error (.refused position fault) := by
  rw [check, hscan] at h
  cases tokens with
  | nil => cases h
  | cons token tokens => exact ⟨List.cons_ne_nil _ _, h⟩

/-- **A rule is refused at its first impossible token, but for a missing name or key.** When a rule
is refused with a position, there is one token, or the end, for which those before it can be
continued to a rule, and those through it cannot.  The position is that of this token exactly where
neither a property name nor a key is missing; otherwise it is that of the next token, and 0 if the
rule has ended. -/
theorem refused_position_iff {rule : String} {tokens : List Token} {position : Nat} {fault : Fault}
    (hscan : scan rule = .ok tokens) (h : check rule = .error (.refused position fault)) :
    ∃ i, (∀ j, FirstImpossible IsRule (tokens.map Token.kind) j ↔ j = i) ∧
      (position = tokenPosition rule tokens i ↔
        fault ≠ .expectedProperty ∧ fault ≠ .expectedKey) ∧
      (fault = .expectedProperty ∨ fault = .expectedKey →
        position = latePosition rule.length (tokens.drop i)) := by
  obtain ⟨hne, hrun⟩ := run_of_refused hscan h
  obtain ⟨i, fault', hlocated, hfirst⟩ :=
    (Checking.runs rule.length).firstImpossible Checking.goesOn hrun
  have hascending := scan_ascending hscan
  have hne := (hascending.drop i).nextPosition_ne (hascending.size_pos hne)
  exact ⟨i, hfirst, Fault.shown_of_located hlocated.symm hne⟩

theorem refused_position_iff_call :
    check "sum([1, 2]" = .error (.refused 10 .expectedItemEnd) ∧
      ∃ tokens i, scan "sum([1, 2]" = .ok tokens ∧ tokenPosition "sum([1, 2]" tokens i = 10 ∧
        FirstImpossible IsRule (tokens.map Token.kind) i := by
  have hscan : scan "sum([1, 2]" = .ok [⟨0, .ident "sum"⟩, ⟨3, .leftParen⟩, ⟨4, .leftBracket⟩,
      ⟨5, .number⟩, ⟨6, .comma⟩, ⟨8, .number⟩, ⟨9, .rightBracket⟩] := by
    with_unfolding_all rfl
  have hcheck : check "sum([1, 2]" = .error (.refused 10 .expectedItemEnd) := by
    rw [check, hscan]
    decide +kernel
  obtain ⟨i, hfirst, hposition, -⟩ := refused_position_iff hscan hcheck
  exact ⟨hcheck, _, i, hscan, (hposition.mpr (by simp)).symm, (hfirst i).mpr rfl⟩

/-- The number in the place of a property name stands at 6, and what is shown is the end at 7. -/
theorem refused_position_late :
    check "$form.1" = .error (.refused 7 .expectedProperty) ∧
      ∃ tokens i, scan "$form.1" = .ok tokens ∧ tokenPosition "$form.1" tokens i = 6 ∧
        ∀ j, FirstImpossible IsRule (tokens.map Token.kind) j ↔ j = i := by
  have hscan : scan "$form.1" = .ok [⟨0, .context "$form"⟩, ⟨5, .dot⟩, ⟨6, .number⟩] := by
    with_unfolding_all rfl
  have hcheck : check "$form.1" = .error (.refused 7 .expectedProperty) := by
    rw [check, hscan]
    decide +kernel
  have hread : [Kind.context "$form", .dot].foldlM Checking.step Checking.start =
      .ok ⟨.property, []⟩ := rfl
  have hnumber : Checking.step ⟨.property, []⟩ .number = .error .expectedProperty := rfl
  have hfirst : FirstImpossible IsRule [.context "$form", .dot, .number] 2 :=
    Checking.goesOn.firstImpossible_of_step hread hnumber
  exact ⟨hcheck, _, 2, hscan, rfl, fun _ => hfirst.unique⟩

end AdaptiveForm.Rule
