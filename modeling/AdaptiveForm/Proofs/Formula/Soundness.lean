import AdaptiveForm.Proofs.Formula.Completeness
import AdaptiveForm.Proofs.Formula.Unambiguity

/-!
# What is read is derived

While tokens are read, every one of them is kept in what stands open or in the operand read last.
`Standing` says so for what stands open: the operands in it are derived, each at the level of the
operator that waits for its partner, and an operator waits only above looser ones.  `Read` says it
for a state of the reader, `Read.step` that each token keeps it, and `settle_derives` is where the
waiting operands are put together.
-/

namespace AdaptiveForm.Formula

/-! ### Derived tokens -/

def Derives (level : Level) (ts : List Kind) (e : Expr) : Prop :=
  ∃ d : Derivation level, d.tokens = ts ∧ d.expr = e

theorem Derives.lift {level tighter : Level} (ht : level.tighter? = some tighter)
    {ts : List Kind} {e : Expr} (h : Derives tighter ts e) : Derives level ts e := by
  obtain ⟨d, rfl, rfl⟩ := h
  exact ⟨.lift ht d, rfl, rfl⟩

theorem tighter_of_rank_lt {level level' : Level} (h : level.rank < level'.rank) :
    ∃ tighter, level.tighter? = some tighter ∧ tighter.rank ≤ level'.rank := by
  cases ht : level.tighter? with
  | some tighter => exact ⟨tighter, rfl, by rw [rank_tighter ht]; omega⟩
  | none =>
    have : level = .primary := by cases level <;> simp [Level.tighter?] at ht ⊢
    subst this
    have := level'.rank_le_primary
    omega

theorem eq_of_rank_eq {level level' : Level} (h : level.rank = level'.rank) : level = level' := by
  cases level <;> cases level' <;> first | rfl | exact absurd h (by decide)

/-- What is derived at a level is derived at all looser ones. -/
theorem Derives.of_rank_le {level level' : Level} {ts : List Kind} {e : Expr}
    (h : Derives level' ts e) (hr : level.rank ≤ level'.rank) : Derives level ts e := by
  induction hn : level'.rank - level.rank generalizing level with
  | zero =>
    rw [eq_of_rank_eq (show level.rank = level'.rank by omega)]
    exact h
  | succ n ih =>
    obtain ⟨tighter, ht, hle⟩ := tighter_of_rank_lt (show level.rank < level'.rank by omega)
    have := rank_tighter ht
    exact (ih hle (by omega)).lift ht

theorem Derives.binary {op : BinaryOp} {ls rs : List Kind} {l r : Expr} {level : Level}
    (hl : Derives op.level ls l) (hr : Derives level rs r) (h : op.rank < level.rank) :
    Derives op.level (ls ++ op.kind :: rs) (.binary op l r) := by
  obtain ⟨tighter, ht, hle⟩ := tighter_of_rank_lt (show op.level.rank < level.rank by
    rw [rank_level]; exact h)
  obtain ⟨d, rfl, rfl⟩ := hl
  obtain ⟨d', rfl, rfl⟩ := hr.of_rank_le hle
  exact ⟨.binary op rfl ht d d', rfl, rfl⟩

theorem Derives.sign (op : UnaryOp) {ts : List Kind} {e : Expr} (h : Derives .unary ts e) :
    Derives .unary (op.kind :: ts) (.unary op e) := by
  obtain ⟨d, rfl, rfl⟩ := h
  exact ⟨.sign op d, rfl, rfl⟩

theorem Derives.percent {ts : List Kind} {e : Expr} (h : Derives .suffixed ts e) :
    Derives .suffixed (ts ++ [.percent]) (.percent e) := by
  obtain ⟨d, rfl, rfl⟩ := h
  exact ⟨.percent d, rfl, rfl⟩

theorem Derives.group {ts : List Kind} {e : Expr} (h : Derives .comparison ts e) :
    Derives .primary (.leftParen :: ts ++ [.rightParen]) (.group e) := by
  obtain ⟨d, rfl, rfl⟩ := h
  exact ⟨.group d, rfl, rfl⟩

theorem Derives.ofName (name : String) : Derives .primary [.ident name] (Expr.ofName name) := by
  rw [Expr.ofName]
  split
  · exact ⟨.cell name _ ‹_›, rfl, rfl⟩
  · rename_i hc
    split_ifs with ht hf
    · exact ⟨.bool true, by rw [ht]; rfl, rfl⟩
    · exact ⟨.bool false, by rw [hf]; rfl, rfl⟩
    · exact ⟨.name name hc ht hf, rfl, rfl⟩

inductive Given : List Expr → List Kind → Prop
  | none : Given [] []
  | more {args : List Expr} {arg : Expr} {ts ls : List Kind} (h : Given args ts)
      (ha : Derives .comparison ls arg) : Given (args ++ [arg]) (ts ++ ls ++ [.comma])

theorem Given.arguments {args : List Expr} {ts : List Kind} (h : Given args ts) :
    ∀ last : Arguments, ∃ whole : Arguments,
      whole.tokens = ts ++ last.tokens ∧ whole.exprs = args ++ last.exprs := by
  induction h with
  | none => intro last; exact ⟨last, rfl, rfl⟩
  | more h ha ih =>
    intro last
    obtain ⟨d, rfl, rfl⟩ := ha
    obtain ⟨whole, ht, he⟩ := ih (.more d last)
    exact ⟨whole, by simp [ht, Arguments.tokens], by simp [he, Arguments.exprs]⟩

theorem Derives.call (function : String) {args : List Expr} {ts ls : List Kind} {e : Expr}
    (hg : Given args ts) (he : Derives .comparison ls e) :
    Derives .primary (.ident function :: .leftParen :: (ts ++ ls) ++ [.rightParen])
      (.call function (args ++ [e])) := by
  obtain ⟨d, rfl, rfl⟩ := he
  obtain ⟨whole, ht, he⟩ := hg.arguments (.one d)
  exact ⟨.call function whole, by rw [Derivation.tokens, ht]; rfl,
    by rw [Derivation.expr, he]; rfl⟩

/-! ### What stands open -/

/-- What stands open has been read from these tokens. -/
inductive Standing : List Opened → List Kind → Prop
  | nil : Standing [] []
  | sign (op : UnaryOp) {opened : List Opened} {ts : List Kind} (h : Standing opened ts) :
      Standing (.sign op :: opened) (ts ++ [op.kind])
  | left {op : BinaryOp} {l : Expr} {opened : List Opened} {ts ls : List Kind}
      (h : Standing opened ts) (hcalm : Calm op.rank opened) (hl : Derives op.level ls l) :
      Standing (.left l op :: opened) (ts ++ ls ++ [op.kind])
  | group {opened : List Opened} {ts : List Kind} (h : Standing opened ts) :
      Standing (.group :: opened) (ts ++ [.leftParen])
  | call (function : String) {args : List Expr} {opened : List Opened} {ts as : List Kind}
      (h : Standing opened ts) (hg : Given args as) :
      Standing (.call function args :: opened) (ts ++ .ident function :: .leftParen :: as)

/-- Of an operand and what waits for it an operator of the rank `n` makes one operand, which may
stand to its left, and leaves only what it does not take. -/
theorem settle_derives {n : Nat} (target : Level) (hbinary : target.rank ≤ 5)
    (htarget : ∀ op : BinaryOp, n ≤ op.rank → target.rank ≤ op.rank) :
    ∀ (opened : List Opened) {e : Expr} {level : Level} {ts ls : List Kind},
    Standing opened ts → Derives level ls e → (level.rank ≤ 5 → Calm level.rank opened) →
    target.rank ≤ level.rank → ∀ {e' : Expr} {rest : List Opened},
    settle n opened e = (e', rest) → ∃ ts' ls', ts ++ ls = ts' ++ ls' ∧ Standing rest ts' ∧
      Derives target ls' e' ∧ Calm n rest := by
  intro opened
  induction opened with
  | nil =>
    intro e level ts ls hs hd _ ht e' rest h
    cases h
    exact ⟨ts, ls, rfl, hs, hd.of_rank_le ht, trivial⟩
  | cons top opened ih =>
    intro e level ts ls hs hd hcalm ht e' rest h
    cases hs with
    | sign op hs =>
      have hlevel : Level.unary.rank ≤ level.rank :=
        Nat.not_lt.mp fun hlt => hcalm (Nat.le_of_lt_succ hlt)
      obtain ⟨ts', ls', he, hr⟩ := ih hs ((hd.of_rank_le hlevel).sign op)
        (fun h => absurd h (by decide)) (Nat.le_succ_of_le hbinary) h
      exact ⟨ts', ls', by rw [← he]; simp, hr⟩
    | @left op l _ _ _ hs hc hl =>
      by_cases hn : n ≤ op.rank
      · have hop : op.rank < level.rank := by
          have := op.rank_le
          by_cases h5 : level.rank ≤ 5
          · exact hcalm h5
          · omega
        rw [settle, if_pos hn] at h
        rw [← rank_level] at hc
        obtain ⟨ts', ls', he, hr⟩ := ih hs (hl.binary hd hop) (fun _ => hc)
          (by rw [rank_level]; exact htarget op hn) h
        exact ⟨ts', ls', by rw [← he]; simp, hr⟩
      · rw [settle, if_neg hn] at h
        cases h
        exact ⟨_, ls, rfl, .left hs hc hl, hd.of_rank_le ht, Nat.lt_of_not_le hn⟩
    | group hs =>
      cases h
      exact ⟨_, ls, rfl, .group hs, hd.of_rank_le ht, trivial⟩
    | call function hs hg =>
      cases h
      exact ⟨_, ls, rfl, .call function hs hg, hd.of_rank_le ht, trivial⟩

/-- What a closing mark makes of an operand and what waits for it. -/
theorem settle_zero_derives {opened rest : List Opened} {e e' : Expr} {ts ls : List Kind}
    (hs : Standing opened ts) (hd : Derives .suffixed ls e)
    (h : settle 0 opened e = (e', rest)) : ∃ ts' ls', ts ++ ls = ts' ++ ls' ∧
      Standing rest ts' ∧ Derives .comparison ls' e' := by
  obtain ⟨ts', ls', he, hr, hd', -⟩ := settle_derives .comparison (by decide)
    (fun op _ => op.rank_pos) opened hs hd (fun h => absurd h (by decide)) (by decide) h
  exact ⟨ts', ls', he, hr, hd'⟩

/-! ### States of the reader -/

/-- The state has been reached by reading these tokens. -/
inductive Read : Reading → List Kind → Prop
  | operand {opened : List Opened} {ts : List Kind} (h : Standing opened ts) :
      Read ⟨.operand, opened⟩ ts
  | argument {function : String} {opened : List Opened} {ts : List Kind}
      (h : Standing opened ts) : Read ⟨.argument, .call function [] :: opened⟩
        (ts ++ [.ident function, .leftParen])
  | ident (name : String) {opened : List Opened} {ts : List Kind} (h : Standing opened ts) :
      Read ⟨.ident name, opened⟩ (ts ++ [.ident name])
  | rangeEnd {name : String} {first : Cell} {opened : List Opened} {ts : List Kind}
      (h : Standing opened ts) (hf : Cell.ofName? name = some first) :
      Read ⟨.rangeEnd first, opened⟩ (ts ++ [.ident name, .colon])
  | complete {e : Expr} {opened : List Opened} {ts ls : List Kind} (h : Standing opened ts)
      (hd : Derives .suffixed ls e) : Read ⟨.complete e, opened⟩ (ts ++ ls)

theorem Read.start : Read Reading.start [] := .operand .nil

theorem Read.primary {e : Expr} {opened : List Opened} {ts ls : List Kind}
    (h : Standing opened ts) (hd : Derives .primary ls e) :
    Read ⟨.complete e, opened⟩ (ts ++ ls) :=
  .complete h (hd.of_rank_le (by decide))

theorem readOperand_read {opened : List Opened} {ts : List Kind} (hs : Standing opened ts)
    {kind : Kind} {next : Reading} (h : readOperand opened kind = .ok next) :
    Read next (ts ++ [kind]) := by
  cases kind with
  | number digits => cases h; exact .primary hs ⟨.number digits, rfl, rfl⟩
  | text content => cases h; exact .primary hs ⟨.text content, rfl, rfl⟩
  | ident name => cases h; exact .ident name hs
  | leftParen => cases h; exact .operand (.group hs)
  | plus => cases h; exact .operand (.sign .plus hs)
  | minus => cases h; exact .operand (.sign .neg hs)
  | _ => cases h

/-- What a token makes of the complete operand `e` above what stands open. -/
inductive After (e : Expr) (opened : List Opened) : Kind → Reading → Prop
  | percent : After e opened .percent ⟨.complete (.percent e), opened⟩
  | operator (op : BinaryOp) {l : Expr} {rest : List Opened}
      (h : settle op.rank opened e = (l, rest)) :
      After e opened op.kind ⟨.operand, .left l op :: rest⟩
  | group {inner : Expr} {outer : List Opened}
      (h : settle 0 opened e = (inner, .group :: outer)) :
      After e opened .rightParen ⟨.complete (.group inner), outer⟩
  | call {function : String} {args : List Expr} {inner : Expr} {outer : List Opened}
      (h : settle 0 opened e = (inner, .call function args :: outer)) :
      After e opened .rightParen ⟨.complete (.call function (args ++ [inner])), outer⟩
  | comma {function : String} {args : List Expr} {inner : Expr} {outer : List Opened}
      (h : settle 0 opened e = (inner, .call function args :: outer)) :
      After e opened .comma ⟨.operand, .call function (args ++ [inner]) :: outer⟩

theorem After.of_readAfter {e : Expr} {opened : List Opened} {kind : Kind} {next : Reading}
    (h : readAfter e opened kind = .ok next) : After e opened kind next := by
  rw [readAfter.eq_def] at h
  split at h
  · cases h
    exact .percent
  · split at h
    · rename_i op hop
      cases h
      rw [BinaryOp.kind_of_ofKind? hop]
      exact .operator op rfl
    · split at h
      rename_i inner rest hsettle
      split at h
      · cases h
        exact .group hsettle
      · cases h
        exact .call hsettle
      · cases h
        exact .comma hsettle
      · cases h

theorem readAfter_read {e : Expr} {opened : List Opened} {ts ls : List Kind}
    (hs : Standing opened ts) (hd : Derives .suffixed ls e) {kind : Kind} {next : Reading}
    (h : readAfter e opened kind = .ok next) : Read next (ts ++ ls ++ [kind]) := by
  cases After.of_readAfter h with
  | percent =>
    rw [List.append_assoc]
    exact .complete hs hd.percent
  | operator op hsettle =>
    have hrank : op.level.rank ≤ Level.suffixed.rank := by
      rw [rank_level]
      exact Nat.le_trans op.rank_le (by decide)
    obtain ⟨ts', ls', he, hr, hd', hc⟩ := settle_derives op.level
      (by rw [rank_level]; exact op.rank_le) (fun op' h => by rwa [rank_level]) opened hs hd
      (fun h => absurd h (by decide)) hrank hsettle
    rw [he]
    exact .operand (.left hr hc hd')
  | group hsettle =>
    obtain ⟨ts', ls', he, hr, hd'⟩ := settle_zero_derives hs hd hsettle
    cases hr with
    | group hr =>
      rw [he]
      simpa using Read.primary hr hd'.group
  | call hsettle =>
    obtain ⟨ts', ls', he, hr, hd'⟩ := settle_zero_derives hs hd hsettle
    cases hr with
    | call _ hr hg =>
      rw [he]
      simpa using Read.primary hr (.call _ hg hd')
  | comma hsettle =>
    obtain ⟨ts', ls', he, hr, hd'⟩ := settle_zero_derives hs hd hsettle
    cases hr with
    | call _ hr hg =>
      rw [he]
      simpa using Read.operand (.call _ hr (hg.more hd'))

/-- **Every token that is read is kept.** -/
theorem Read.step {reading next : Reading} {ts : List Kind} (h : Read reading ts) {kind : Kind}
    (hn : reading.step kind = .ok next) : Read next (ts ++ [kind]) := by
  cases h with
  | operand hs => exact readOperand_read hs hn
  | @argument function opened ts hs =>
    simp only [Reading.step] at hn
    split at hn
    · rename_i hk
      cases hn
      cases hk
      have hd : Derives .primary [.ident function, .leftParen, .rightParen] (.call function []) :=
        ⟨.emptyCall function, rfl, rfl⟩
      simpa using Read.primary hs hd
    · exact readOperand_read (.call function hs .none) hn
  | ident name hs =>
    have hd : Derives .suffixed [.ident name] (Expr.ofName name) :=
      (Derives.ofName name).of_rank_le (by decide)
    simp only [Reading.step] at hn
    split at hn
    · cases hn
      rw [List.append_assoc]
      exact .argument hs
    · split at hn
      · cases hn
        rw [List.append_assoc]
        exact .rangeEnd hs ‹_›
      · exact readAfter_read hs hd hn
    · exact readAfter_read hs hd hn
  | rangeEnd hs hf =>
    simp only [Reading.step] at hn
    split at hn
    · split at hn
      · rename_i hl
        cases hn
        have hd : Derives .primary _ _ := ⟨.range _ _ _ _ hf hl, rfl, rfl⟩
        simpa [Derivation.tokens, Derivation.expr] using Read.primary hs hd
      · cases hn
    · cases hn
  | complete hs hd => exact readAfter_read hs hd hn

theorem Read.steps {kinds : List Kind} : ∀ {reading next : Reading} {ts : List Kind},
    Read reading ts → reading.steps kinds = .ok next → Read next (ts ++ kinds) := by
  induction kinds with
  | nil =>
    intro reading next ts h hn
    cases hn
    rwa [List.append_nil]
  | cons kind kinds ih =>
    intro reading next ts h hn
    rw [Reading.steps_cons] at hn
    cases hs : reading.step kind with
    | error fault => rw [hs] at hn; cases hn
    | ok between =>
      rw [hs] at hn
      have := ih (h.step hs) hn
      rwa [List.append_assoc, List.singleton_append] at this

theorem finishAfter_derives {e e' : Expr} {opened : List Opened} {ts ls : List Kind}
    (hs : Standing opened ts) (hd : Derives .suffixed ls e)
    (h : finishAfter e opened = .ok e') : Derives .comparison (ts ++ ls) e' := by
  obtain ⟨ts', ls', he, hr, hd'⟩ := settle_zero_derives hs hd rfl
  rw [finishAfter] at h
  split at h
  · rename_i hsettle
    cases h
    rw [hsettle] at hr hd'
    cases hr
    rwa [he]
  · cases h

/-- **What is read to its end is derived.** -/
theorem Read.finish {reading : Reading} {ts : List Kind} (h : Read reading ts) {e : Expr}
    (hf : reading.finish = .ok e) : Derives .comparison ts e := by
  cases h with
  | operand => cases hf
  | argument => cases hf
  | ident name hs =>
    exact finishAfter_derives hs ((Derives.ofName name).of_rank_le (by decide)) hf
  | rangeEnd => cases hf
  | complete hs hd => exact finishAfter_derives hs hd hf

end AdaptiveForm.Formula
