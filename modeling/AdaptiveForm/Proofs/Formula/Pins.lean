import AdaptiveForm.Proofs.Formula.Grammar
import Mathlib.Data.List.Forall2
import Mathlib.Data.List.Induction
import Mathlib.Data.List.TakeWhile
import Mathlib.Tactic.IntervalCases
import Mathlib.Tactic.Set

/-!
# Cells and their pins

A cell is written with or without a `$` before its column and its row.  `Cell.text_ofName?` says
that the text of a cell is its name without these marks, so a formula that is written out again
from its expression has the tokens it was read from, `SameButPins` for each.

The row is where something has to be proved: `toDigits_decimal` says that the decimal digits of a
number read from digits are these digits, as long as the first of them is not `0`.
-/

namespace AdaptiveForm.Formula

/-! ### Rows -/

def decimal (cs : List Char) : Nat :=
  cs.foldl (fun n d => 10 * n + (d.toNat - '0'.toNat)) 0

theorem decimal_concat (cs : List Char) (d : Char) :
    decimal (cs ++ [d]) = 10 * decimal cs + (d.toNat - '0'.toNat) := by
  simp [decimal]

theorem digit_bounds {d : Char} (h : d.isDigit = true) : 48 ≤ d.toNat ∧ d.toNat ≤ 57 := by
  simp only [Char.isDigit, Bool.and_eq_true, decide_eq_true_eq, ge_iff_le] at h
  exact ⟨UInt32.le_iff_toNat_le.mp h.1, UInt32.le_iff_toNat_le.mp h.2⟩

theorem digitChar_digit {d : Char} (h : d.isDigit = true) :
    (d.toNat - '0'.toNat).digitChar = d := by
  obtain ⟨hl, hu⟩ := digit_bounds h
  apply Char.toNat_inj.mp
  obtain ⟨n, hn⟩ : ∃ n, d.toNat = 48 + n ∧ n < 10 := ⟨d.toNat - 48, by omega, by omega⟩
  obtain ⟨hn, hlt⟩ := hn
  rw [hn, show 48 + n - '0'.toNat = n by simp]
  interval_cases n <;> rfl

theorem decimal_pos {cs : List Char} (hd : ∀ c ∈ cs, c.isDigit = true) (hne : cs ≠ [])
    (h0 : cs.head? ≠ some '0') : 0 < decimal cs := by
  induction cs using List.reverseRecOn with
  | nil => exact absurd rfl hne
  | append_singleton cs d ih =>
    rw [decimal_concat]
    rcases List.eq_nil_or_concat cs with rfl | ⟨cs', d', rfl⟩
    · have hdig := hd d (by simp)
      obtain ⟨hl, -⟩ := digit_bounds hdig
      have h48 : '0'.toNat = 48 := rfl
      have hne0 : d.toNat ≠ 48 := by
        intro he
        have hd0 : d = '0' := Char.toNat_inj.mp he
        exact h0 (by rw [hd0]; rfl)
      omega
    · have hne' : cs'.concat d' ≠ [] := by simp
      rw [List.head?_append_of_ne_nil _ hne'] at h0
      have := ih (fun c hc => hd c (List.mem_append_left _ hc)) hne' h0
      omega

/-- **Reading digits and writing them again changes nothing**, if there is no leading zero. -/
theorem toDigits_decimal {cs : List Char} (hd : ∀ c ∈ cs, c.isDigit = true) (hne : cs ≠ [])
    (h0 : cs.head? ≠ some '0') : Nat.toDigits 10 (decimal cs) = cs := by
  induction cs using List.reverseRecOn with
  | nil => exact absurd rfl hne
  | append_singleton cs d ih =>
    have hdig := hd d (by simp)
    obtain ⟨hl, hu⟩ := digit_bounds hdig
    have hlt : d.toNat - '0'.toNat < 10 := by
      have h48 : '0'.toNat = 48 := rfl
      omega
    rw [decimal_concat]
    by_cases hcs : cs = []
    · subst hcs
      simp only [decimal, List.foldl_nil, Nat.mul_zero, Nat.zero_add, List.nil_append]
      rw [Nat.toDigits_of_lt_base hlt, digitChar_digit hdig]
    · have hd' : ∀ c ∈ cs, c.isDigit = true := fun c hc => hd c (List.mem_append_left _ hc)
      have h0' : cs.head? ≠ some '0' := by rwa [List.head?_append_of_ne_nil _ hcs] at h0
      rw [← Nat.toDigits_append_toDigits (by decide) (decimal_pos hd' hcs h0') hlt,
        ih hd' hcs h0', Nat.toDigits_of_lt_base hlt, digitChar_digit hdig]

/-- A row that digits write is written with these digits. -/
theorem toDigits_of_rowOfDigits? {cs : List Char} {row : Nat} (h : rowOfDigits? cs = some row) :
    Nat.toDigits 10 row = cs ∧ ∀ c ∈ cs, c.isDigit = true := by
  cases cs with
  | nil => simp [rowOfDigits?] at h
  | cons c cs =>
    simp only [rowOfDigits?] at h
    split at h
    · rename_i hc
      simp only [Bool.and_eq_true, decide_eq_true_eq, List.all_eq_true] at hc
      split at h
      · simp only [Option.some.injEq] at h
        subst h
        exact ⟨toDigits_decimal hc.2 (by simp) (by simp [hc.1]), hc.2⟩
      · simp at h
    · simp at h

/-! ### Names of cells -/

def unpinned (name : String) : String :=
  String.ofList (name.toList.filter (· ≠ '$'))

theorem filter_dropPin (cs : List Char) :
    (dropPin cs).filter (· ≠ '$') = cs.filter (· ≠ '$') := by
  cases cs with
  | nil => rfl
  | cons c cs =>
    by_cases hc : c = '$'
    · subst hc; simp [dropPin]
    · simp [dropPin, hc]

theorem isColumnLetter_ne {c : Char} (h : isColumnLetter c = true) : c ≠ '$' := by
  rintro rfl
  exact absurd h (by decide)

theorem isDigit_ne_pin {c : Char} (h : c.isDigit = true) : c ≠ '$' := by
  rintro rfl
  exact absurd h (by decide)

theorem Cell.text_ofName? {name : String} {cell : Cell} (h : Cell.ofName? name = some cell) :
    cell.text = unpinned name := by
  simp only [Cell.ofName?, Option.ite_none_right_eq_some] at h
  obtain ⟨-, h⟩ := h
  obtain ⟨row, hrow, rfl⟩ := Option.map_eq_some_iff.mp h
  obtain ⟨hdigits, hdig⟩ := toDigits_of_rowOfDigits? hrow
  set cs := dropPin name.toList with hcs
  have hcolumn : (cs.takeWhile isColumnLetter).filter (· ≠ '$') = cs.takeWhile isColumnLetter :=
    List.filter_eq_self.mpr fun c hc => by
      simpa using isColumnLetter_ne (List.mem_takeWhile_imp hc)
  have hrest : (cs.drop (cs.takeWhile isColumnLetter).length).filter (· ≠ '$') =
      Nat.toDigits 10 row := by
    rw [← filter_dropPin, hdigits]
    exact List.filter_eq_self.mpr fun c hc => by simpa using isDigit_ne_pin (hdig c hc)
  have hstart : cs.takeWhile isColumnLetter <+: cs := List.takeWhile_prefix isColumnLetter
  have hsplit : cs = cs.takeWhile isColumnLetter ++
      cs.drop (cs.takeWhile isColumnLetter).length :=
    (List.prefix_iff_eq_append.mp hstart).symm
  have hname : name.toList.filter (· ≠ '$') = cs.takeWhile isColumnLetter ++
      Nat.toDigits 10 row := by
    rw [← filter_dropPin, ← hcs]
    conv_lhs => rw [hsplit]
    rw [List.filter_append, hcolumn, hrest]
  rw [unpinned, hname, Cell.text, String.ofList_append, Nat.toString_eq_ofList_toDigits]

/-! ### Writing an expression out -/

mutual

/-- The tokens of an expression, cells without pins. -/
def Expr.tokens : Expr → List Kind
  | .number digits => [.number digits]
  | .text content => [.text content]
  | .bool value => [.ident (if value then "true" else "false")]
  | .cell cell => [.ident cell.text]
  | .range first last => [.ident first.text, .colon, .ident last.text]
  | .name name => [.ident name]
  | .call function args => .ident function :: .leftParen :: listTokens args ++ [.rightParen]
  | .unary op operand => op.kind :: operand.tokens
  | .percent operand => operand.tokens ++ [.percent]
  | .binary op left right => left.tokens ++ op.kind :: right.tokens
  | .group inner => .leftParen :: inner.tokens ++ [.rightParen]

def listTokens : List Expr → List Kind
  | [] => []
  | [arg] => arg.tokens
  | arg :: args => arg.tokens ++ .comma :: listTokens args

end

/-- Two tokens that are the same, or the name of a cell and that name without its pins. -/
inductive SameButPins : Kind → Kind → Prop
  | same (kind : Kind) : SameButPins kind kind
  | cell (name : String) (h : (Cell.ofName? name).isSome) :
      SameButPins (.ident name) (.ident (unpinned name))

theorem SameButPins.refl_list (ts : List Kind) : List.Forall₂ SameButPins ts ts :=
  List.forall₂_same.mpr fun k _ => .same k

theorem sameButPins_cell {name : String} {cell : Cell} (h : Cell.ofName? name = some cell) :
    SameButPins (.ident name) (.ident cell.text) := by
  rw [Cell.text_ofName? h]
  exact .cell name (by simp [h])

theorem Arguments.exprs_ne_nil (args : Arguments) : args.exprs ≠ [] := by
  cases args <;> simp [Arguments.exprs]

mutual

/-- **The expression of a derivation has the derivation's tokens**, but for pins. -/
theorem Derivation.tokens_expr : ∀ {level : Level} (d : Derivation level),
    List.Forall₂ SameButPins d.tokens d.expr.tokens
  | _, .binary op _ _ left right => by
    simp only [Derivation.tokens, Derivation.expr, Expr.tokens]
    exact List.rel_append left.tokens_expr (.cons (.same _) right.tokens_expr)
  | _, .lift _ inner => inner.tokens_expr
  | _, .sign op operand => .cons (.same _) operand.tokens_expr
  | _, .percent operand => List.rel_append operand.tokens_expr (SameButPins.refl_list _)
  | _, .number digits => SameButPins.refl_list _
  | _, .text content => SameButPins.refl_list _
  | _, .group inner =>
    .cons (.same _) (List.rel_append inner.tokens_expr (SameButPins.refl_list _))
  | _, .emptyCall function => SameButPins.refl_list _
  | _, .call function args =>
    .cons (.same _) (.cons (.same _) (List.rel_append args.tokens_exprs (SameButPins.refl_list _)))
  | _, .cell name cell h => .cons (sameButPins_cell h) .nil
  | _, .range first last firstCell lastCell hf hl =>
    .cons (sameButPins_cell hf) (.cons (.same _) (.cons (sameButPins_cell hl) .nil))
  | _, .bool value => SameButPins.refl_list _
  | _, .name name _ _ _ => SameButPins.refl_list _

theorem Arguments.tokens_exprs : ∀ args : Arguments,
    List.Forall₂ SameButPins args.tokens (listTokens args.exprs)
  | .one arg => arg.tokens_expr
  | .more arg rest => by
    obtain ⟨e, es, he⟩ := List.exists_cons_of_ne_nil rest.exprs_ne_nil
    have hr := rest.tokens_exprs
    simp only [Arguments.tokens, Arguments.exprs, he, listTokens] at hr ⊢
    exact List.rel_append arg.tokens_expr (.cons (.same _) hr)

end

end AdaptiveForm.Formula
