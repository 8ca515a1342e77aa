import AdaptiveForm.Proofs.Rule.Acceptance
import AdaptiveForm.Proofs.Rule.Unambiguity
import AdaptiveForm.Proofs.Rule.Writing
import Mathlib.Data.List.Forall2
import Mathlib.Tactic.SplitIfs

/-!
# What the compiler writes

The text of an expression is a rule with the tree of the expression's meaning, and put into
parentheses where a binary operator makes it, it is an operand with this tree.  The induction runs
over the expression and carries both.  As the chains in the text group in one way under every table
of operators, the text is read as its meaning and as nothing else, and as the tokens are derived,
the check accepts them.
-/

namespace AdaptiveForm.Rule

open AdaptiveForm.Formula (Expr Cell BinaryOp UnaryOp)

variable {T : Operators} {paths : RowPaths}

theorem bind_eq_ok {ε α β : Type} {x : Except ε α} {f : α → Except ε β} {b : β} :
    (x >>= f) = .ok b ↔ ∃ a, x = .ok a ∧ f a = .ok b := by
  cases x with
  | error e => exact ⟨nofun, nofun⟩
  | ok a => simp [bind, Except.bind]

/-! ### The tables -/

theorem operation_of_symbol? {op : BinaryOp} {symbol : String} (h : symbol? op = some symbol) :
    operation op = .binary symbol := by
  cases op <;> cases h <;> rfl

theorem mem_lowerings {function : String} {lowering : Lowering}
    (h : lowering? function = some lowering) : (function, lowering) ∈ lowerings := by
  obtain ⟨l₁, l₂, hl, -⟩ := List.lookup_eq_some_iff.mp h
  rw [hl]
  simp

theorem isCallable_of_target? {function target : String} {lowering : Lowering}
    (h : lowering? function = some lowering) (ht : lowering.target? = some target) :
    IsCallable target := by
  have hall : ∀ entry ∈ lowerings, ∀ target ∈ entry.2.target?, IsCallable target := by
    decide
  exact hall _ (mem_lowerings h) target ht

theorem isCallable_if : IsCallable "if" := by
  decide

theorem isCallable_power : IsCallable "power" := by
  decide

/-- Only two functions join their arguments. -/
theorem eq_concat_of_join {function : String} (h : lowering? function = some .join) :
    (function == "concat" || function == "concatenate") = true := by
  have hall : ∀ entry ∈ lowerings, entry.2.target? = none →
      (entry.1 == "concat" || entry.1 == "concatenate") = true := by
    decide
  exact hall _ (mem_lowerings h) rfl

/-! ### One node -/

/-- The text is the rule of the expression's meaning, and as an operand an operand. -/
def Renders (T : Operators) (paths : RowPaths) (e : Expr) (text : String) : Prop :=
  ∃ term, meaning T paths e = some term ∧ Writes T text (.rule term) ∧
    Writes T (wrapOperand e text) (.operand term)

theorem Renders.of_operand {e : Expr} {text : String} {term : Term}
    (hm : meaning T paths e = some term) (h : Writes T text (.operand term))
    (hw : wrapOperand e text = text) : Renders T paths e text := by
  refine ⟨term, hm, h.rule, ?_⟩
  rw [hw]
  exact h

theorem Renders.group {inner : Expr} {text : String} (h : Renders T paths inner text) :
    Renders T paths (.group inner) ("(" ++ text ++ ")") := by
  obtain ⟨term, hm, hr, -⟩ := h
  exact .of_operand (by rw [meaning, hm]) hr.paren.operand rfl

theorem Renders.unary {op : UnaryOp} {operand : Expr} {text : String}
    (h : Renders T paths operand text) :
    Renders T paths (.unary op operand) (unaryText op (wrapOperand operand text)) := by
  obtain ⟨term, hm, -, ho⟩ := h
  cases op with
  | neg => exact .of_operand (by rw [meaning, hm]; rfl) ho.neg rfl
  | plus => exact .of_operand (by rw [meaning, hm]) ho rfl

theorem Renders.percent {operand : Expr} {text : String} (h : Renders T paths operand text) :
    Renders T paths (.percent operand) ("(" ++ wrapOperand operand text ++ " / 100)") := by
  obtain ⟨term, hm, -, ho⟩ := h
  have hundred : Writes T "100" (.operand (.number "100")) :=
    (Writes.number (by decide)).operand
  have hop : symbol? .div = some "/" := rfl
  have hquotient := (Writes.binary hop ho hundred).paren.operand
  refine .of_operand (by rw [meaning, hm]; rfl) ?_ rfl
  rwa [show "(" ++ wrapOperand operand text ++ " / 100)" =
      "(" ++ (wrapOperand operand text ++ " " ++ "/" ++ " " ++ "100") ++ ")" by
    simp [String.ext_iff]]

theorem Writes.binaryText (op : BinaryOp) {left right : String} {l r : Term}
    (hl : Writes T left (.operand l)) (hr : Writes T right (.operand r)) :
    Writes T (binaryText op left right) (.rule (operation op l r)) := by
  rw [Rule.binaryText]
  cases hs : symbol? op with
  | some symbol =>
    rw [operation_of_symbol? hs]
    exact .binary hs hl hr
  | none =>
    have hop : op = .pow := by
      cases op <;> cases hs
      rfl
    have htext : "power(" ++ left ++ ", " ++ right ++ ")" =
        "power" ++ "(" ++ commaList [left, right] ++ ")" := by
      simp [commaList, String.ext_iff, String.intercalate_cons_cons]
    rw [hop]
    show Writes T ("power(" ++ left ++ ", " ++ right ++ ")") _
    rw [htext]
    exact (WritesEach.call isCallable_power (.cons hl.rule (.cons hr.rule .nil))).operand.rule

theorem Renders.binary {op : BinaryOp} {left right : Expr} {leftText rightText : String}
    (hl : Renders T paths left leftText) (hr : Renders T paths right rightText) :
    Renders T paths (.binary op left right)
      (binaryText op (wrapOperand left leftText) (wrapOperand right rightText)) := by
  obtain ⟨l, hml, -, hl⟩ := hl
  obtain ⟨r, hmr, -, hr⟩ := hr
  have hm : meaning T paths (.binary op left right) = some (operation op l r) := by
    rw [meaning, hml, hmr]
    rfl
  have hrule := Writes.binaryText op hl hr
  exact ⟨_, hm, hrule, hrule.paren.operand⟩

/-! ### References -/

theorem Renders.cell (hp : PathsOnly paths) {cell : Cell} {text : String}
    (h : cellPath paths cell = .ok text) : Renders T paths (.cell cell) text := by
  rw [cellPath] at h
  split at h
  · rename_i path hrow
    cases h
    exact .of_operand (by rw [meaning, hrow]; rfl) (.path (hp _ _ hrow)) rfl
  · cases h

theorem pathsFrom_writes (hp : PathsOnly paths) {column : String} {row count : Nat}
    {texts : List String} (h : pathsFrom paths column row count = .ok texts) :
    ∃ terms, (List.range' row count).mapM (fun row => (paths row).map Term.ofPath) = some terms ∧
      WritesEach T texts terms := by
  induction count generalizing row texts with
  | zero =>
    cases h
    exact ⟨[], rfl, .nil⟩
  | succ count ih =>
    rw [pathsFrom] at h
    split at h
    · cases h
    · rename_i path hrow
      cases hrest : pathsFrom paths column (row + 1) count with
      | error e =>
        rw [hrest] at h
        cases h
      | ok rest =>
        rw [hrest] at h
        cases h
        obtain ⟨terms, hterms, hw⟩ := ih hrest
        refine ⟨.ofPath path :: terms, ?_, .cons (Writes.path (hp _ _ hrow)).rule hw⟩
        rw [List.range'_succ, List.mapM_cons, hrow, hterms]
        rfl

theorem rangePaths_writes (hp : PathsOnly paths)
    {first last : Cell} {texts : List String} (h : rangePaths paths first last = .ok texts) :
    ∃ terms, rangeTerms paths first last = some terms ∧ WritesEach T texts terms :=
  pathsFrom_writes hp h

/-! ### Calls -/

theorem Renders.aggregate {function target : String} {args : List Expr} {texts : List String}
    {terms : List Term} (hf : lowering? function = some (.aggregate target))
    (hm : itemMeanings T paths args = some terms) (h : WritesEach T texts terms) :
    Renders T paths (.call function args) (target ++ "([" ++ commaList texts ++ "])") := by
  have hlist : WritesEach T ["[" ++ commaList texts ++ "]"] [.list terms] :=
    .cons h.list.operand.rule .nil
  have hcall := (hlist.call (isCallable_of_target? hf rfl)).operand
  refine .of_operand (by rw [meaning, hf, hm]; rfl) ?_ rfl
  rwa [show target ++ "([" ++ commaList texts ++ "])" =
      target ++ "(" ++ commaList ["[" ++ commaList texts ++ "]"] ++ ")" by
    simp [commaList, String.ext_iff]]

theorem Renders.direct {function target : String} {args : List Expr} {texts : List String}
    {terms : List Term} (hf : lowering? function = some (.direct target))
    (hm : meanings T paths args = some terms) (h : WritesEach T texts terms) :
    Renders T paths (.call function args) (target ++ "(" ++ commaList texts ++ ")") :=
  .of_operand (by rw [meaning, hf, hm]; rfl) (h.call (isCallable_of_target? hf rfl)).operand rfl

theorem Renders.conditional {function text : String} {args : List Expr} {texts : List String}
    {terms : List Term} (hf : lowering? function = some .conditional)
    (hm : meanings T paths args = some terms) (h : WritesEach T texts terms)
    (ht : conditionalText texts = .ok text) : Renders T paths (.call function args) text := by
  have hmeaning : meaning T paths (.call function args) = choice? terms := by
    rw [meaning, hf, hm]
    rfl
  have hfalse : Writes T "false" (.rule (.name "false")) :=
    (Writes.name (by decide)).operand.rule
  have hif : ∀ texts, "if(" ++ commaList texts ++ ")" = "if" ++ "(" ++ commaList texts ++ ")" := by
    intro texts
    rfl
  unfold conditionalText at ht
  split at ht
  · cases ht
    obtain _ | ⟨hcondition, _ | ⟨hyes, ⟨⟩⟩⟩ := h
    rw [hif]
    exact .of_operand hmeaning (WritesEach.call isCallable_if
      (.cons hcondition (.cons hyes (.cons hfalse .nil)))).operand rfl
  · cases ht
    obtain _ | ⟨hcondition, _ | ⟨hyes, _ | ⟨hno, ⟨⟩⟩⟩⟩ := h
    rw [hif]
    exact .of_operand hmeaning (WritesEach.call isCallable_if
      (.cons hcondition (.cons hyes (.cons hno .nil)))).operand rfl
  · cases ht

theorem Renders.join {function : String} {args : List Expr} {texts : List String}
    {terms : List Term} (hf : lowering? function = some .join)
    (hne : args ≠ []) (hm : meanings T paths args = some terms)
    (h : List.Forall₂ (fun text term => Writes T text (.operand term)) texts terms) :
    Renders T paths (.call function args) ("(" ++ String.intercalate " & " texts ++ ")") := by
  cases terms with
  | nil =>
    cases args with
    | nil => exact absurd rfl hne
    | cons arg args =>
      rw [meanings] at hm
      cases harg : meaning T paths arg <;> cases hargs : meanings T paths args <;>
        simp [harg, hargs] at hm
  | cons first rest =>
    exact .of_operand (by rw [meaning, hf, hm]; rfl) (Writes.join h).operand rfl

/-! ### All nodes -/

theorem itemTexts_cons {arg : Expr} (h : ∀ first last, arg ≠ .range first last)
    (args : List Expr) : itemTexts paths (arg :: args) = (do
      let text ← exprText paths arg
      let texts ← itemTexts paths args
      return text :: texts) := by
  cases arg with
  | range first last => exact absurd rfl (h first last)
  | _ => rfl

theorem itemMeanings_cons {arg : Expr} (h : ∀ first last, arg ≠ .range first last)
    (args : List Expr) : itemMeanings T paths (arg :: args) = (do
      let term ← meaning T paths arg
      let terms ← itemMeanings T paths args
      return term :: terms) := by
  cases arg with
  | range first last => exact absurd rfl (h first last)
  | _ => rfl

mutual

/-- **The text of an expression is the rule of its meaning**, and in parentheses an operand. -/
theorem renders_exprText (hp : PathsOnly paths) : ∀ (e : Expr) {text : String}, isPlain e = true →
    exprText paths e = .ok text → Renders T paths e text
  | .number digits, text, hplain, h => by
    cases h
    exact .of_operand rfl (Writes.number hplain).operand rfl
  | .text content, text, hplain, h => by
    cases h
    refine .of_operand rfl (Writes.text ?_).operand rfl
    simpa [isPlain] using hplain
  | .bool value, text, hplain, h => by
    cases h
    refine .of_operand rfl (Writes.name ?_).operand rfl
    cases value <;> decide
  | .cell cell, text, hplain, h => .cell hp h
  | .range first last, text, hplain, h => by
    obtain ⟨texts, hrange, ⟨⟩⟩ := bind_eq_ok.mp h
    obtain ⟨terms, hterms, hw⟩ := rangePaths_writes (T := T) hp hrange
    exact .of_operand (by rw [meaning, hterms]; rfl) hw.list.operand rfl
  | .name name, text, hplain, h => nomatch h
  | .group inner, text, hplain, h => by
    obtain ⟨text, hinner, ⟨⟩⟩ := bind_eq_ok.mp h
    exact (renders_exprText hp inner hplain hinner).group
  | .percent operand, text, hplain, h => by
    obtain ⟨text, hoperand, ⟨⟩⟩ := bind_eq_ok.mp h
    exact (renders_exprText hp operand hplain hoperand).percent
  | .unary op operand, text, hplain, h => by
    obtain ⟨text, hoperand, ⟨⟩⟩ := bind_eq_ok.mp h
    exact (renders_exprText hp operand hplain hoperand).unary
  | .binary op left right, text, hplain, h => by
    rw [isPlain, Bool.and_eq_true] at hplain
    obtain ⟨leftText, hleft, h⟩ := bind_eq_ok.mp h
    obtain ⟨rightText, hright, ⟨⟩⟩ := bind_eq_ok.mp h
    exact (renders_exprText hp left hplain.1 hleft).binary
      (renders_exprText hp right hplain.2 hright)
  | .call function args, text, hplain, h => by
    rw [isPlain, Bool.and_eq_true] at hplain
    rw [exprText] at h
    split at h
    · cases h
    · rename_i target hf
      obtain ⟨texts, htexts, ⟨⟩⟩ := bind_eq_ok.mp h
      obtain ⟨terms, hterms, hw⟩ := writes_itemTexts hp args hplain.2 htexts
      exact .aggregate hf hterms hw
    · rename_i target hf
      obtain ⟨texts, htexts, ⟨⟩⟩ := bind_eq_ok.mp h
      obtain ⟨terms, hterms, hw⟩ := writes_argTexts hp args hplain.2 htexts
      exact .direct hf hterms hw
    · rename_i hf
      obtain ⟨texts, htexts, h⟩ := bind_eq_ok.mp h
      obtain ⟨terms, hterms, hw⟩ := writes_argTexts hp args hplain.2 htexts
      exact .conditional hf hterms hw h
    · rename_i hf
      obtain ⟨texts, htexts, ⟨⟩⟩ := bind_eq_ok.mp h
      obtain ⟨terms, hterms, hw⟩ := writes_operandTexts hp args hplain.2 htexts
      -- only here plainness of the call itself is needed: nothing can be joined to `()`
      have hne : args ≠ [] := by
        rintro rfl
        simp [eq_concat_of_join hf] at hplain
      exact .join hf hne hterms hw

theorem writes_argTexts (hp : PathsOnly paths) : ∀ (args : List Expr) {texts : List String},
    arePlain args = true → argTexts paths args = .ok texts →
    ∃ terms, meanings T paths args = some terms ∧ WritesEach T texts terms
  | [], texts, hplain, h => by
    cases h
    exact ⟨[], rfl, .nil⟩
  | arg :: args, texts, hplain, h => by
    rw [arePlain, Bool.and_eq_true] at hplain
    obtain ⟨text, harg, h⟩ := bind_eq_ok.mp h
    obtain ⟨texts, hargs, ⟨⟩⟩ := bind_eq_ok.mp h
    obtain ⟨term, hterm, hw, -⟩ := renders_exprText hp arg hplain.1 harg
    obtain ⟨terms, hterms, hws⟩ := writes_argTexts hp args hplain.2 hargs
    exact ⟨term :: terms, by rw [meanings, hterm, hterms]; rfl, .cons hw hws⟩

theorem writes_operandTexts (hp : PathsOnly paths) : ∀ (args : List Expr) {texts : List String},
    arePlain args = true → operandTexts paths args = .ok texts →
    ∃ terms, meanings T paths args = some terms ∧
      List.Forall₂ (fun text term => Writes T text (.operand term)) texts terms
  | [], texts, hplain, h => by
    cases h
    exact ⟨[], rfl, .nil⟩
  | arg :: args, texts, hplain, h => by
    rw [arePlain, Bool.and_eq_true] at hplain
    obtain ⟨text, harg, h⟩ := bind_eq_ok.mp h
    obtain ⟨texts, hargs, ⟨⟩⟩ := bind_eq_ok.mp h
    obtain ⟨term, hterm, -, hw⟩ := renders_exprText hp arg hplain.1 harg
    obtain ⟨terms, hterms, hws⟩ := writes_operandTexts hp args hplain.2 hargs
    exact ⟨term :: terms, by rw [meanings, hterm, hterms]; rfl, .cons hw hws⟩

theorem writes_itemTexts (hp : PathsOnly paths) : ∀ (args : List Expr) {texts : List String},
    arePlain args = true → itemTexts paths args = .ok texts →
    ∃ terms, itemMeanings T paths args = some terms ∧ WritesEach T texts terms
  | [], texts, hplain, h => by
    cases h
    exact ⟨[], rfl, .nil⟩
  | arg :: args, texts, hplain, h => by
    rw [arePlain, Bool.and_eq_true] at hplain
    by_cases hrange : ∃ first last, arg = .range first last
    · obtain ⟨first, last, rfl⟩ := hrange
      obtain ⟨rows, hrows, h⟩ := bind_eq_ok.mp h
      obtain ⟨texts, hargs, ⟨⟩⟩ := bind_eq_ok.mp h
      obtain ⟨rowTerms, hrowTerms, hw⟩ := rangePaths_writes (T := T) hp hrows
      obtain ⟨terms, hterms, hws⟩ := writes_itemTexts hp args hplain.2 hargs
      exact ⟨rowTerms ++ terms, by rw [itemMeanings, hrowTerms, hterms]; rfl,
        List.rel_append hw hws⟩
    · have hrange : ∀ first last, arg ≠ .range first last :=
        fun first last hrange' => hrange ⟨first, last, hrange'⟩
      rw [itemTexts_cons hrange] at h
      obtain ⟨text, harg, h⟩ := bind_eq_ok.mp h
      obtain ⟨texts, hargs, ⟨⟩⟩ := bind_eq_ok.mp h
      obtain ⟨term, hterm, hw, -⟩ := renders_exprText hp arg hplain.1 harg
      obtain ⟨terms, hterms, hws⟩ := writes_itemTexts hp args hplain.2 hargs
      exact ⟨term :: terms, by rw [itemMeanings_cons hrange, hterm, hterms]; rfl, .cons hw hws⟩

end

/-! ### Whole rules -/

/-- **A rule is read as the meaning of its formula and as nothing else**, whatever the ranks and
sides of the operators are. -/
theorem reads_iff_meaning (hp : PathsOnly paths) (T : Operators) {e : Expr} {text : String}
    (hplain : isPlain e = true) (h : exprText paths e = .ok text) :
    ∃ term, meaning T paths e = some term ∧ ∀ term', Reads T text term' ↔ term' = term := by
  obtain ⟨term, hm, hw, -⟩ := renders_exprText (T := T) hp e hplain h
  obtain ⟨ls, hl, hd⟩ := hw.derives
  refine ⟨term, hm, ?_⟩
  intro term'
  constructor
  · rintro ⟨ls', hl', hd'⟩
    cases hl.symm.trans hl'
    have hunique : Unique (Groups T 0) ls (.rule term) := hd.unique fun _ _ _ _ hg hg' => hg.2 _ hg'
    obtain ⟨-, hgoal⟩ := hunique hd' trivial rfl (Goal.stopsAt_nil _) (Goal.stopsAt_nil _)
    exact (Goal.rule.inj hgoal).symm
  · rintro rfl
    exact ⟨ls, hl, hd.mono fun _ _ _ hg => hg.1⟩

/-- The difference of a sum and a share keeps its grouping where every operator binds alike and to
the right. -/
theorem reads_iff_meaning_difference :
    let T : Operators := ⟨fun _ => 0, fun _ => .right⟩
    let text := "($form.price + 1.5) - (sum([$form.price, $form.order.count, 'it\\'s']) / 100)"
    let sum : Term := .binary "+" (.member (.context "$form") "price") (.number "1.5")
    let share : Term := .binary "/" (.call "sum" [.list [.member (.context "$form") "price",
      .member (.member (.context "$form") "order") "count", .text "it's"]]) (.number "100")
    Reads T text (.binary "-" sum share) ∧
      ∀ term, Reads T text term → term = .binary "-" sum share := by
  intro T text sum share
  have hp : PathsOnly fun row => if row = 2 then some "$form.price" else
      if row = 3 then some "$form.order.count" else none := by
    intro row path h
    dsimp only at h
    split_ifs at h <;> cases h <;> decide
  have hplain : isPlain (.binary .sub (.binary .add (.cell ⟨"b", 2⟩) (.number "1.5"))
      (.percent (.call "sum" [.range ⟨"b", 2⟩ ⟨"b", 3⟩, .text "it's"]))) = true := by
    decide
  obtain ⟨term, hm, hreads⟩ :=
    reads_iff_meaning hp T hplain (by rfl : exprText _ _ = .ok text)
  cases hm
  exact ⟨(hreads _).mpr rfl, fun term => (hreads term).mp⟩

/-- A rule that is written for a formula passes the check. -/
theorem check_exprText (hp : PathsOnly paths) {e : Expr} {text : String} (hplain : isPlain e = true)
    (h : exprText paths e = .ok text) : check text = .ok () := by
  obtain ⟨term, -, hw, -⟩ := renders_exprText (T := ⟨fun _ => 0, fun _ => .left⟩) hp e hplain h
  obtain ⟨ls, hl, hd⟩ := hw.derives
  exact check_of_derives hl hd

/-- **The check never refuses a compiled rule**, so that compiling with and without it is the
same. -/
theorem compile_eq_of_isPlain (hp : PathsOnly paths) {cell : String}
    (hplain : ∀ e, Expr.parse (normalizeFormula cell) = .ok e → isPlain e = true) :
    compile paths true cell = compile paths false cell ∧
      ∀ rule, emit paths (normalizeFormula cell) = .ok rule → check rule = .ok () := by
  have hcheck : ∀ rule, emit paths (normalizeFormula cell) = .ok rule → check rule = .ok () := by
    intro rule hrule
    rw [emit] at hrule
    split at hrule
    · cases hrule
    · rename_i e he
      exact check_exprText hp (hplain e he) hrule
  refine ⟨?_, hcheck⟩
  rw [compile, compile]
  cases hemit : emit paths (normalizeFormula cell) with
  | error e => rfl
  | ok rule =>
    simp only [if_true, hcheck rule hemit, Bool.false_eq_true, if_false]

theorem compile_eq_of_isPlain_price :
    compile (fun _ => some "$form.price") true "=B2 & \"s\"" =
      compile (fun _ => some "$form.price") false "=B2 & \"s\"" := by
  have hp : PathsOnly fun _ => some "$form.price" := by
    intro row path h
    cases h
    decide
  have hparse : Expr.parse (normalizeFormula "=B2 & \"s\"") =
      .ok (.binary .concat (.cell ⟨"b", 2⟩) (.text "s")) := by
    with_unfolding_all rfl
  refine (compile_eq_of_isPlain hp ?_).1
  intro e he
  cases hparse.symm.trans he
  decide

end AdaptiveForm.Rule
