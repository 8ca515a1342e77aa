import AdaptiveForm.Proofs.Formula.Grammar

/-!
# What the grammar derives is read

Reading the tokens of a derivation leaves its operand complete, but not yet joined: signs and
operators of the derivation may still wait to its left, above what stood open before.  They wait
for as long as a tighter operator may follow.  `Derivation.steps_tokens` says which ones these
are by what becomes of them: as soon as an operator of the derivation's level or a looser one
comes, or a closing mark, `settle` makes the derivation's expression of them.

The reading of a level needs that nothing waits already which the level would take.  This is
`Calm`; it holds behind an operator of a looser level and behind an opening mark.
-/

namespace AdaptiveForm.Formula

/-! ### Reading many tokens -/

def Reading.steps (reading : Reading) (kinds : List Kind) : Except Fault Reading :=
  kinds.foldlM Reading.step reading

@[simp] theorem Reading.steps_nil (reading : Reading) : reading.steps [] = .ok reading := rfl

@[simp] theorem Reading.steps_cons (reading : Reading) (kind : Kind) (kinds : List Kind) :
    reading.steps (kind :: kinds) = reading.step kind >>= fun next => next.steps kinds := rfl

theorem Reading.steps_append (reading : Reading) (kinds kinds' : List Kind) :
    reading.steps (kinds ++ kinds') = reading.steps kinds >>= fun next => next.steps kinds' :=
  List.foldlM_append

theorem Reading.steps_append_of_ok {reading next : Reading} {kinds : List Kind}
    (h : reading.steps kinds = .ok next) (kinds' : List Kind) :
    reading.steps (kinds ++ kinds') = next.steps kinds' := by
  rw [Reading.steps_append, h]
  rfl

theorem Reading.steps_cons_of_ok {reading next : Reading} {kind : Kind}
    (h : reading.step kind = .ok next) (kinds : List Kind) :
    reading.steps (kind :: kinds) = next.steps kinds := by
  rw [Reading.steps_cons, h]
  rfl

/-- A formula is read when its tokens are, and the reading can end after them. -/
theorem Reading.run_eq_ok_iff (size : Nat) (e : Expr) :
    ∀ (tokens : List Token) (reading : Reading), reading.run size tokens = .ok e ↔
      ∃ next, reading.steps (tokens.map Token.kind) = .ok next ∧ next.finish = .ok e := by
  intro tokens
  induction tokens with
  | nil =>
    intro reading
    rw [Reading.run, List.map_nil, Reading.steps_nil]
    cases hf : reading.finish with
    | ok e' => simp [hf]
    | error fault => simp [hf]
  | cons token tokens ih =>
    intro reading
    rw [Reading.run, List.map_cons, Reading.steps_cons]
    cases hs : reading.step token.kind with
    | ok next => exact ih next
    | error fault => simp [bind, Except.bind]

/-! ### Complete operands -/

/-- In the state an operand is complete that stands for `e`, and `opened` is open. -/
inductive Complete (e : Expr) (opened : List Opened) : Reading → Prop
  | operand : Complete e opened ⟨.complete e, opened⟩
  | ident (name : String) (h : Expr.ofName name = e) : Complete e opened ⟨.ident name, opened⟩

theorem Complete.step {e : Expr} {opened : List Opened} {reading : Reading}
    (h : Complete e opened reading) (kind : Kind) (hp : kind ≠ .leftParen) (hc : kind ≠ .colon) :
    reading.step kind = readAfter e opened kind := by
  cases h with
  | operand => rfl
  | ident name he =>
    subst he
    cases kind <;> first | rfl | exact absurd rfl hp | exact absurd rfl hc

theorem Complete.finish {e : Expr} {opened : List Opened} {reading : Reading}
    (h : Complete e opened reading) : reading.finish = finishAfter e opened := by
  cases h with
  | operand => rfl
  | ident name he => subst he; rfl

inductive Opens : Phase → Prop
  | operand : Opens .operand
  | argument : Opens .argument

theorem Opens.step {phase : Phase} (h : Opens phase) (opened : List Opened) {kind : Kind}
    (hk : kind ≠ .rightParen) : Reading.step ⟨phase, opened⟩ kind = readOperand opened kind := by
  cases h with
  | operand => rfl
  | argument => cases kind <;> first | rfl | exact absurd rfl hk

/-! ### What waits -/

/-- Nothing waits at the top that an operator of the rank `rank` would take. -/
def Calm (rank : Nat) : List Opened → Prop
  | .sign _ :: _ => False
  | .left _ op :: _ => op.rank < rank
  | _ => True

theorem Calm.mono {rank rank' : Nat} (hr : rank ≤ rank') {opened : List Opened}
    (h : Calm rank opened) : Calm rank' opened := by
  match opened, h with
  | [], _ => trivial
  | .left _ _ :: _, h => exact Nat.lt_of_lt_of_le h hr
  | .group :: _, _ => trivial
  | .call _ _ :: _, _ => trivial

theorem settle_of_calm {rank : Nat} {opened : List Opened} (h : Calm rank opened) (e : Expr) :
    settle rank opened e = (e, opened) := by
  match opened, h with
  | [], _ => rfl
  | .left l op :: rest, h => rw [settle, if_neg (Nat.not_le_of_lt h)]
  | .group :: _, _ => rfl
  | .call _ _ :: _, _ => rfl

/-- An operator takes what waits, down to where nothing does that it would take. -/
theorem readAfter_op {op : BinaryOp} {e e' : Expr} {opened rest : List Opened}
    (h : settle op.rank opened e = (e', rest)) :
    readAfter e opened op.kind = .ok ⟨.operand, .left e' op :: rest⟩ := by
  rw [readAfter, BinaryOp.ofKind?_kind]
  · simp only [h]
  · cases op <;> simp [BinaryOp.kind]

/-! ### Reading a derivation -/

/-- Reading `kinds` completes an operand, which becomes `e` for whatever comes from the rank `rank`
down. -/
def ReadsAs (rank : Nat) (phase : Phase) (opened : List Opened) (kinds : List Kind) (e : Expr) :
    Prop :=
  ∃ (last : Expr) (waiting : List Opened) (next : Reading),
    Reading.steps ⟨phase, opened⟩ kinds = .ok next ∧ Complete last (waiting ++ opened) next ∧
      ∀ n ≤ rank, ∀ rest, settle n (waiting ++ rest) last = settle n rest e

/-- Reading `kinds` completes the operand `e` itself, and nothing new waits. -/
def ReadsOperand (phase : Phase) (opened : List Opened) (kinds : List Kind) (e : Expr) : Prop :=
  ∃ next, Reading.steps ⟨phase, opened⟩ kinds = .ok next ∧ Complete e opened next

theorem ReadsOperand.readsAs {phase : Phase} {opened : List Opened} {kinds : List Kind} {e : Expr}
    (h : ReadsOperand phase opened kinds e) (rank : Nat) :
    ReadsAs rank phase opened kinds e := by
  obtain ⟨next, hs, hc⟩ := h
  exact ⟨e, [], next, hs, hc, fun _ _ _ => rfl⟩

theorem ReadsAs.mono {rank rank' : Nat} (hr : rank ≤ rank') {phase : Phase}
    {opened : List Opened} {kinds : List Kind} {e : Expr}
    (h : ReadsAs rank' phase opened kinds e) : ReadsAs rank phase opened kinds e := by
  obtain ⟨last, waiting, next, hs, hc, hw⟩ := h
  exact ⟨last, waiting, next, hs, hc, fun n hn => hw n (Nat.le_trans hn hr)⟩

theorem ReadsAs.settle_eq {rank : Nat} {phase : Phase} {opened : List Opened} {kinds : List Kind}
    {e : Expr} (h : ReadsAs rank phase opened kinds e) {n : Nat} (hn : n ≤ rank)
    (hcalm : Calm n opened) : ∃ last opened' next,
      Reading.steps ⟨phase, opened⟩ kinds = .ok next ∧ Complete last opened' next ∧
        settle n opened' last = (e, opened) := by
  obtain ⟨last, waiting, next, hs, hc, hw⟩ := h
  exact ⟨last, waiting ++ opened, next, hs, hc, by rw [hw n hn, settle_of_calm hcalm]⟩

theorem readsOperand_single {phase : Phase} (hp : Opens phase) (opened : List Opened)
    (kind : Kind) {e : Expr} {next : Reading} (hk : kind ≠ .rightParen)
    (hr : readOperand opened kind = .ok next) (hc : Complete e opened next) :
    ReadsOperand phase opened [kind] e :=
  ⟨next, by rw [Reading.steps_cons_of_ok ((hp.step opened hk).trans hr), Reading.steps_nil], hc⟩

/-- A binary operation is read: its left operand at the same level, its operator, and its right
operand at the next level. -/
theorem readsAs_binary {phase : Phase} {opened : List Opened} {op : BinaryOp} {l r : Expr}
    {ls rs : List Kind} (hcalm : Calm op.rank opened) (hl : ReadsAs op.rank phase opened ls l)
    (hr : ReadsAs (op.rank + 1) .operand (.left l op :: opened) rs r) :
    ReadsAs op.rank phase opened (ls ++ op.kind :: rs) (.binary op l r) := by
  obtain ⟨last, opened', next, hs, hc, hw⟩ := hl.settle_eq (Nat.le_refl _) hcalm
  obtain ⟨last', waiting, next', hs', hc', hw'⟩ := hr
  refine ⟨last', waiting ++ [.left l op], next', ?_, by simpa using hc', ?_⟩
  · have hstep := hc.step op.kind (by cases op <;> simp [BinaryOp.kind])
      (by cases op <;> simp [BinaryOp.kind])
    rw [Reading.steps_append_of_ok hs, Reading.steps_cons_of_ok (hstep.trans (readAfter_op hw)),
      hs']
  · intro n hn rest
    rw [List.append_assoc, List.singleton_append, hw' n (by omega), settle, if_pos hn]

theorem readsAs_sign {phase : Phase} (hp : Opens phase) {opened : List Opened} {op : UnaryOp}
    {rank : Nat} {e : Expr} {ts : List Kind}
    (h : ReadsAs rank .operand (.sign op :: opened) ts e) :
    ReadsAs rank phase opened (op.kind :: ts) (.unary op e) := by
  obtain ⟨last, waiting, next, hs, hc, hw⟩ := h
  refine ⟨last, waiting ++ [.sign op], next, ?_, by simpa using hc, ?_⟩
  · have hstep : Reading.step ⟨phase, opened⟩ op.kind = .ok ⟨.operand, .sign op :: opened⟩ := by
      rw [hp.step opened (by cases op <;> simp [UnaryOp.kind])]
      cases op <;> rfl
    rw [Reading.steps_cons_of_ok hstep, hs]
  · intro n hn rest
    rw [List.append_assoc, List.singleton_append, hw n hn, settle]

theorem readAfter_group {last e : Expr} {opened outer : List Opened}
    (h : settle 0 opened last = (e, .group :: outer)) :
    readAfter last opened .rightParen = .ok ⟨.complete (.group e), outer⟩ := by
  rw [readAfter]
  · simp only [BinaryOp.ofKind?, h]
  · simp

theorem readAfter_call {last e : Expr} {opened outer : List Opened} {function : String}
    {args : List Expr} (h : settle 0 opened last = (e, .call function args :: outer)) :
    readAfter last opened .rightParen =
      .ok ⟨.complete (.call function (args ++ [e])), outer⟩ := by
  rw [readAfter]
  · simp only [BinaryOp.ofKind?, h]
  · simp

theorem readAfter_comma {last e : Expr} {opened outer : List Opened} {function : String}
    {args : List Expr} (h : settle 0 opened last = (e, .call function args :: outer)) :
    readAfter last opened .comma = .ok ⟨.operand, .call function (args ++ [e]) :: outer⟩ := by
  rw [readAfter]
  · simp only [BinaryOp.ofKind?, h]
  · simp

theorem readsOperand_group {phase : Phase} (hp : Opens phase) {opened : List Opened} {e : Expr}
    {ts : List Kind} (h : ReadsAs 1 .operand (.group :: opened) ts e) :
    ReadsOperand phase opened (.leftParen :: ts ++ [.rightParen]) (.group e) := by
  obtain ⟨last, opened', next, hs, hc, hw⟩ := h.settle_eq (n := 0) (by decide) trivial
  refine ⟨⟨.complete (.group e), opened⟩, ?_, .operand⟩
  have hopen : Reading.step ⟨phase, opened⟩ .leftParen = .ok ⟨.operand, .group :: opened⟩ :=
    hp.step opened (by simp)
  have hclose := (hc.step .rightParen (by simp) (by simp)).trans (readAfter_group hw)
  rw [List.cons_append, Reading.steps_cons_of_ok hopen, Reading.steps_append_of_ok hs,
    Reading.steps_cons_of_ok hclose, Reading.steps_nil]

theorem steps_callHead {phase : Phase} (hp : Opens phase) (opened : List Opened)
    (function : String) (ts : List Kind) :
    Reading.steps ⟨phase, opened⟩ (.ident function :: .leftParen :: ts) =
      Reading.steps ⟨.argument, .call function [] :: opened⟩ ts := by
  have hname : Reading.step ⟨phase, opened⟩ (.ident function) = .ok ⟨.ident function, opened⟩ :=
    hp.step opened (by simp)
  rw [Reading.steps_cons_of_ok hname, Reading.steps_cons_of_ok rfl]

theorem readsOperand_range {phase : Phase} (hp : Opens phase) (opened : List Opened)
    {first last : String} {firstCell lastCell : Cell} (hf : Cell.ofName? first = some firstCell)
    (hl : Cell.ofName? last = some lastCell) :
    ReadsOperand phase opened [.ident first, .colon, .ident last] (.range firstCell lastCell) := by
  refine ⟨⟨.complete (.range firstCell lastCell), opened⟩, ?_, .operand⟩
  have hname : Reading.step ⟨phase, opened⟩ (.ident first) = .ok ⟨.ident first, opened⟩ :=
    hp.step opened (by simp)
  have hcolon : Reading.step ⟨.ident first, opened⟩ .colon = .ok ⟨.rangeEnd firstCell, opened⟩ := by
    simp only [Reading.step, hf]
  have hend : Reading.step ⟨.rangeEnd firstCell, opened⟩ (.ident last) =
      .ok ⟨.complete (.range firstCell lastCell), opened⟩ := by
    simp only [Reading.step, hl]
  rw [Reading.steps_cons_of_ok hname, Reading.steps_cons_of_ok hcolon,
    Reading.steps_cons_of_ok hend, Reading.steps_nil]

theorem ofName_cell {name : String} {cell : Cell} (h : Cell.ofName? name = some cell) :
    Expr.ofName name = .cell cell := by
  simp only [Expr.ofName, h]

theorem ofName_bool (value : Bool) :
    Expr.ofName (if value then "true" else "false") = .bool value := by
  cases value <;> rfl

theorem ofName_name {name : String} (hc : Cell.ofName? name = none) (ht : name ≠ "true")
    (hf : name ≠ "false") : Expr.ofName name = .name name := by
  simp only [Expr.ofName, hc, if_neg ht, if_neg hf]

theorem readsOperand_ident {phase : Phase} (hp : Opens phase) (opened : List Opened)
    {name : String} {e : Expr} (h : Expr.ofName name = e) :
    ReadsOperand phase opened [.ident name] e :=
  readsOperand_single hp opened (.ident name) (by simp) rfl (.ident name h)

mutual

/-- **What is derived is read**, and becomes the expression of the derivation. -/
theorem Derivation.reads : ∀ {level : Level} (d : Derivation level) {phase : Phase}
    (opened : List Opened), Opens phase → (level.rank ≤ 5 → Calm level.rank opened) →
    ReadsAs level.rank phase opened d.tokens d.expr ∧
      (7 ≤ level.rank → ReadsOperand phase opened d.tokens d.expr)
  | level, .binary op hop ht left right, phase, opened, hp, hcalm => by
    have hrank : level.rank = op.rank := by rw [← hop, rank_level]
    have hr := right.reads (.left left.expr op :: opened) .operand fun _ => by
      rw [Calm, rank_tighter ht, hrank]
      omega
    have hl := left.reads opened hp hcalm
    rw [rank_tighter ht, hrank] at hr
    rw [hrank] at hl hcalm ⊢
    have := op.rank_le
    exact ⟨readsAs_binary (hcalm this) hl.1 hr.1, fun h => absurd h (by omega)⟩
  | level, .lift ht inner, phase, opened, hp, hcalm => by
    have hrank := rank_tighter ht
    obtain ⟨hr, ho⟩ := inner.reads opened hp fun h => (hcalm (by omega)).mono (by omega)
    exact ⟨hr.mono (by omega), fun h => ho (by omega)⟩
  | _, .sign op operand, phase, opened, hp, _ => by
    have h := operand.reads (.sign op :: opened) .operand
      fun h => absurd h (by simp [Level.rank])
    exact ⟨readsAs_sign hp h.1, fun h => absurd h (by simp [Level.rank])⟩
  | _, .percent operand, phase, opened, hp, _ => by
    obtain ⟨next, hs, hc⟩ := (operand.reads opened hp fun h => absurd h (by simp [Level.rank])).2
      (Nat.le_refl 7)
    have hstep : next.step .percent = .ok ⟨.complete (.percent operand.expr), opened⟩ :=
      hc.step .percent (by simp) (by simp)
    have h : ReadsOperand phase opened (operand.tokens ++ [.percent]) (.percent operand.expr) :=
      ⟨_, by rw [Reading.steps_append_of_ok hs, Reading.steps_cons_of_ok hstep,
        Reading.steps_nil], .operand⟩
    exact ⟨h.readsAs _, fun _ => h⟩
  | _, .number digits, phase, opened, hp, _ => by
    have h := readsOperand_single hp opened (.number digits) (by simp) rfl .operand
    exact ⟨h.readsAs _, fun _ => h⟩
  | _, .text content, phase, opened, hp, _ => by
    have h := readsOperand_single hp opened (.text content) (by simp) rfl .operand
    exact ⟨h.readsAs _, fun _ => h⟩
  | _, .group inner, phase, opened, hp, _ => by
    have h := readsOperand_group hp (inner.reads (.group :: opened) .operand
      fun _ => trivial).1
    exact ⟨h.readsAs _, fun _ => h⟩
  | _, .emptyCall function, phase, opened, hp, _ => by
    have h : ReadsOperand phase opened [.ident function, .leftParen, .rightParen]
        (.call function []) :=
      ⟨_, by rw [steps_callHead hp, Reading.steps_cons_of_ok rfl, Reading.steps_nil], .operand⟩
    exact ⟨h.readsAs _, fun _ => h⟩
  | _, .call function args, phase, opened, hp, _ => by
    have h : ReadsOperand phase opened
        (.ident function :: .leftParen :: args.tokens ++ [.rightParen])
        (.call function args.exprs) :=
      ⟨_, by rw [List.cons_append, List.cons_append, steps_callHead hp,
        args.steps_tokens .argument, List.nil_append], .operand⟩
    exact ⟨h.readsAs _, fun _ => h⟩
  | _, .cell name cell hcell, phase, opened, hp, _ => by
    have h := readsOperand_ident hp opened (ofName_cell hcell)
    exact ⟨h.readsAs _, fun _ => h⟩
  | _, .range first last firstCell lastCell hf hl, phase, opened, hp, _ => by
    have h := readsOperand_range hp opened hf hl
    exact ⟨h.readsAs _, fun _ => h⟩
  | _, .bool value, phase, opened, hp, _ => by
    have h := readsOperand_ident hp opened (ofName_bool value)
    exact ⟨h.readsAs _, fun _ => h⟩
  | _, .name name hc ht hf, phase, opened, hp, _ => by
    have h := readsOperand_ident hp opened (ofName_name hc ht hf)
    exact ⟨h.readsAs _, fun _ => h⟩

theorem Arguments.steps_tokens : ∀ (args : Arguments) {phase : Phase}, Opens phase →
    ∀ {function : String} {before : List Expr} {opened : List Opened},
    Reading.steps ⟨phase, .call function before :: opened⟩ (args.tokens ++ [.rightParen]) =
      .ok ⟨.complete (.call function (before ++ args.exprs)), opened⟩
  | .one arg, phase, hp, function, before, opened => by
    obtain ⟨last, opened', next, hs, hc, hw⟩ :=
      (arg.reads (.call function before :: opened) hp fun _ => trivial).1.settle_eq
        (n := 0) (by decide) trivial
    have hclose := (hc.step .rightParen (by simp) (by simp)).trans (readAfter_call hw)
    rw [Arguments.tokens, Reading.steps_append_of_ok hs, Reading.steps_cons_of_ok hclose,
      Reading.steps_nil, Arguments.exprs]
  | .more arg rest, phase, hp, function, before, opened => by
    obtain ⟨last, opened', next, hs, hc, hw⟩ :=
      (arg.reads (.call function before :: opened) hp fun _ => trivial).1.settle_eq
        (n := 0) (by decide) trivial
    have hcomma := (hc.step .comma (by simp) (by simp)).trans (readAfter_comma hw)
    rw [Arguments.tokens, List.append_assoc, Reading.steps_append_of_ok hs, List.cons_append,
      Reading.steps_cons_of_ok hcomma, rest.steps_tokens .operand, Arguments.exprs,
      List.append_assoc, List.singleton_append]

end

/-- The tokens of a whole derivation are read, and nothing stands open after them. -/
theorem Derivation.steps_finish (d : Derivation .comparison) :
    ∃ next, Reading.start.steps d.tokens = .ok next ∧ next.finish = .ok d.expr := by
  obtain ⟨last, opened, next, hs, hc, hw⟩ :=
    (d.reads [] .operand fun _ => trivial).1.settle_eq (n := 0) (by decide) trivial
  refine ⟨next, hs, ?_⟩
  rw [hc.finish, finishAfter, hw]

end AdaptiveForm.Formula
