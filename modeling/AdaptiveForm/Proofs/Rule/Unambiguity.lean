import AdaptiveForm.Proofs.Rule.Grammar

/-!
# Rules have one tree

Two derivations that begin at the same token and cannot go on behind their ends derive the same
tokens as the same tree, if the chains of one of them group in one way only.  The proof is an
induction on that one.  Each rule of the grammar is told by its first token, and a part that has
something behind it ends where it does because it cannot go on there: behind an operand comes an
operator, behind an item a comma, behind what is in brackets the closing one.
-/

namespace AdaptiveForm.Rule

/-! ### Where parts stop -/

theorem head_of_append {l : Lexeme} {ls ls' r r' : List Lexeme} {p : Lexeme → Bool}
    (he : l :: ls ++ r = ls' ++ r') (hs : ∃ l' ls'', ls' = l' :: ls'' ∧ p l' = true) :
    p l = true := by
  obtain ⟨l', ls'', rfl, hl⟩ := hs
  rw [List.cons_append, List.cons_append, List.cons.injEq] at he
  rw [he.1]
  exact hl

theorem not_stopsAt_append {goal : Goal} {ls r r' : List Lexeme} {p : Lexeme → Bool}
    (hr : goal.StopsAt r) (he : r = ls ++ r') (hs : ∃ l ls', ls = l :: ls' ∧ p l = true)
    (hp : ∀ l, p l = true → goal.goesOn l = true) : False := by
  obtain ⟨l, ls', rfl, hl⟩ := hs
  rw [he, List.cons_append, Goal.stopsAt_cons, hp l hl] at hr
  cases hr

theorem stopsAt_operand {first t : Term} {rest : List (String × Term)} {r : List Lexeme}
    (h : (Goal.chain first rest).StopsAt r) : (Goal.operand t).StopsAt r :=
  h.mono fun l hl => by
    simp only [Goal.goesOn, Bool.or_eq_false_iff] at hl ⊢
    exact hl.1

theorem stopsAt_rule {terms : List Term} {t : Term} {r : List Lexeme}
    (h : (Goal.items terms).StopsAt r) : (Goal.rule t).StopsAt r :=
  h.mono fun l hl => by
    simp only [Goal.goesOn, Bool.or_eq_false_iff] at hl ⊢
    exact hl.1

theorem stopsAt_rule_entries {entries : List (String × Term)} {t : Term} {r : List Lexeme}
    (h : (Goal.entries entries).StopsAt r) : (Goal.rule t).StopsAt r :=
  h.mono fun l hl => by
    simp only [Goal.goesOn, Bool.or_eq_false_iff] at hl ⊢
    exact hl.1

theorem stopsAt_items {terms terms' : List Term} {r : List Lexeme}
    (h : (Goal.args terms).StopsAt r) : (Goal.items terms').StopsAt r :=
  h.mono fun l hl => by cases l <;> first | rfl | cases hl

theorem stopsAt_entries {entries entries' : List (String × Term)} {r : List Lexeme}
    (h : (Goal.fields entries).StopsAt r) : (Goal.entries entries').StopsAt r :=
  h.mono fun l hl => by cases l <;> first | rfl | cases hl

/-- Behind an operand without signs come properties and indices, or what comes behind these. -/
theorem stopsAt_primary {ls r : List Lexeme} {owner t : Term}
    (hs : (Goal.suffixes owner t).StartsWith ls) (hr : (Goal.operand t).StopsAt r) :
    (Goal.primary owner).StopsAt (ls ++ r) := by
  cases ls with
  | nil =>
    exact hr.mono fun l hl => by
      simp only [Goal.goesOn, Bool.or_eq_false_iff] at hl ⊢
      exact hl.1
  | cons l ls =>
    have := hs l (by simp)
    rw [List.cons_append, Goal.stopsAt_cons]
    cases l <;> first | rfl | cases this

theorem stopsAt_symbol {l : Lexeme} {symbol : String} (h : l.symbol? = some symbol) (t : Term)
    (r : List Lexeme) : (Goal.operand t).StopsAt (l :: r) := by
  rw [Goal.stopsAt_cons]
  cases l <;> first | rfl | cases h

theorem not_stopsAt_symbol {l : Lexeme} {symbol : String} (h : l.symbol? = some symbol)
    {first : Term} {rest : List (String × Term)} {r : List Lexeme}
    (hr : (Goal.chain first rest).StopsAt (l :: r)) : False := by
  rw [Goal.stopsAt_cons] at hr
  simp [Goal.goesOn, h] at hr

theorem goesOn_args {terms : List Term} (l : Lexeme) (h : l.startsOperand = true) :
    (Goal.args terms).goesOn l = true := by
  cases l <;> first | rfl | cases h

theorem goesOn_fields {entries : List (String × Term)} (l : Lexeme) (h : l.key?.isSome = true) :
    (Goal.fields entries).goesOn l = true := by
  cases l <;> first | rfl | cases h

theorem entries_head {ls : List Lexeme} {es : List (String × Term)}
    (h : (Goal.entries es).StartsWith ls) : ∃ l ls', ls = l :: ls' ∧ l.key?.isSome = true := by
  obtain ⟨l, ls', key, rfl, hl⟩ := h
  exact ⟨l, ls', rfl, by simp [hl]⟩

theorem append_cons_assoc (ls ls' r : List Lexeme) (l : Lexeme) :
    ls ++ l :: ls' ++ r = ls ++ l :: (ls' ++ r) := by
  simp

/-! ### Uniqueness -/

/-- What begins like these tokens and is of the same kind as the goal is these tokens and this
goal. -/
def Unique (G : Grouping) (ls : List Lexeme) (goal : Goal) : Prop :=
  ∀ {ls' : List Lexeme} {goal' : Goal} {r r' : List Lexeme}, Derives G ls' goal' →
    goal.Alike goal' → ls ++ r = ls' ++ r' → goal.StopsAt r → goal'.StopsAt r' →
    ls = ls' ∧ goal = goal'

variable {G : Grouping}

/-! ### Chains -/

theorem unique_rule {ls first rest term} (hG : ∀ term', G first rest term' → term' = term)
    (ih : Unique G ls (.chain first rest)) : Unique G ls (.rule term) := by
  intro ls' goal' r r' h' ha he hr hr'
  cases h' with
  | rule h' hg' =>
    obtain ⟨rfl, heq⟩ := ih h' trivial he hr hr'
    cases heq
    rw [hG _ hg']
    exact ⟨rfl, rfl⟩
  | _ => exact False.elim ha

theorem unique_last {ls t} (ih : Unique G ls (.operand t)) : Unique G ls (.chain t []) := by
  intro ls' goal' r r' h' ha he hr hr'
  cases h' with
  | last h' =>
    obtain ⟨rfl, heq⟩ := ih h' trivial he (stopsAt_operand hr) (stopsAt_operand hr')
    cases heq
    exact ⟨rfl, rfl⟩
  | more h' hl' hrest' =>
    rw [append_cons_assoc] at he
    obtain ⟨rfl, -⟩ := ih h' trivial he (stopsAt_operand hr) (stopsAt_symbol hl' _ _)
    rw [List.append_cancel_left he] at hr
    exact (not_stopsAt_symbol hl' hr).elim
  | _ => exact False.elim ha

theorem unique_more {ls ls' l symbol t first rest} (ih : Unique G ls (.operand t))
    (hl : l.symbol? = some symbol) (ih' : Unique G ls' (.chain first rest)) :
    Unique G (ls ++ l :: ls') (.chain t ((symbol, first) :: rest)) := by
  intro ls' goal' r r' h' ha he hr hr'
  rw [append_cons_assoc] at he
  cases h' with
  | last h' =>
    obtain ⟨rfl, -⟩ := ih h' trivial he (stopsAt_symbol hl _ _) (stopsAt_operand hr')
    rw [← List.append_cancel_left he] at hr'
    exact (not_stopsAt_symbol hl hr').elim
  | more h' hl' hrest' =>
    rw [append_cons_assoc] at he
    obtain ⟨rfl, heq⟩ := ih h' trivial he (stopsAt_symbol hl _ _) (stopsAt_symbol hl' _ _)
    obtain ⟨rfl, he'⟩ := List.cons.inj (List.append_cancel_left he)
    obtain ⟨rfl, heq'⟩ := ih' hrest' trivial he' hr hr'
    cases heq
    cases heq'
    cases Option.some.inj (hl.symm.trans hl')
    exact ⟨rfl, rfl⟩
  | _ => exact False.elim ha

/-! ### Operands -/

theorem unique_not {ls t} (ih : Unique G ls (.operand t)) :
    Unique G (.not :: ls) (.operand (.not t)) := by
  intro ls' goal' r r' h' ha he hr hr'
  cases h' with
  | not h' =>
    obtain ⟨rfl, heq⟩ := ih h' trivial (List.cons.inj he).2 hr hr'
    cases heq
    exact ⟨rfl, rfl⟩
  | neg h' => cases he
  | plain h' hs' =>
    rw [List.append_assoc] at he
    exact absurd (head_of_append he h'.startsWith) (by decide)
  | _ => exact False.elim ha

theorem unique_neg {ls t} (ih : Unique G ls (.operand t)) :
    Unique G (.minus :: ls) (.operand (.neg t)) := by
  intro ls' goal' r r' h' ha he hr hr'
  cases h' with
  | not h' => cases he
  | neg h' =>
    obtain ⟨rfl, heq⟩ := ih h' trivial (List.cons.inj he).2 hr hr'
    cases heq
    exact ⟨rfl, rfl⟩
  | plain h' hs' =>
    rw [List.append_assoc] at he
    exact absurd (head_of_append he h'.startsWith) (by decide)
  | _ => exact False.elim ha

theorem unique_plain {ls ls' owner t} (hs : (Goal.primary owner).StartsWith ls)
    (hs' : (Goal.suffixes owner t).StartsWith ls') (ih : Unique G ls (.primary owner))
    (ih' : Unique G ls' (.suffixes owner t)) : Unique G (ls ++ ls') (.operand t) := by
  intro ls' goal' r r' h' ha he hr hr'
  rw [List.append_assoc] at he
  cases h' with
  | not h' => exact absurd (head_of_append he.symm hs) (by decide)
  | neg h' => exact absurd (head_of_append he.symm hs) (by decide)
  | plain h' hs'' =>
    rw [List.append_assoc] at he
    obtain ⟨rfl, heq⟩ := ih h' trivial he (stopsAt_primary hs' hr)
      (stopsAt_primary hs''.startsWith hr')
    cases heq
    obtain ⟨rfl, heq⟩ := ih' hs'' rfl (List.append_cancel_left he) hr hr'
    cases heq
    exact ⟨rfl, rfl⟩
  | _ => exact False.elim ha

theorem unique_done {t} : Unique G [] (.suffixes t t) := by
  intro ls' goal' r r' h' ha he hr hr'
  cases h' with
  | done => exact ⟨rfl, by rw [show _ = _ from ha]⟩
  | member hl' h' =>
    rw [List.nil_append] at he
    rw [he] at hr
    cases Goal.stopsAt_cons.mp hr
  | index hp' h' =>
    rw [List.nil_append] at he
    rw [he] at hr
    cases Goal.stopsAt_cons.mp hr
  | _ => exact False.elim ha

theorem unique_member {ls l property owner t} (hl : l.word? = some property)
    (ih : Unique G ls (.suffixes (.member owner property) t)) :
    Unique G (.dot :: l :: ls) (.suffixes owner t) := by
  intro ls' goal' r r' h' ha he hr hr'
  cases h' with
  | done =>
    rw [List.nil_append] at he
    rw [← he] at hr'
    cases Goal.stopsAt_cons.mp hr'
  | member hl' h' =>
    obtain ⟨rfl, he'⟩ := List.cons.inj (List.cons.inj he).2
    cases Option.some.inj (hl.symm.trans hl')
    cases (show _ = _ from ha)
    obtain ⟨rfl, heq⟩ := ih h' rfl he' hr hr'
    cases heq
    exact ⟨rfl, rfl⟩
  | index hp' h' => cases he
  | _ => exact False.elim ha

theorem unique_index {ls ls' owner place t} (ih : Unique G ls (.rule place))
    (ih' : Unique G ls' (.suffixes (.index owner place) t)) :
    Unique G (.leftBracket :: ls ++ .rightBracket :: ls') (.suffixes owner t) := by
  intro ls' goal' r r' h' ha he hr hr'
  cases h' with
  | done =>
    rw [List.nil_append] at he
    rw [← he] at hr'
    cases Goal.stopsAt_cons.mp hr'
  | member hl' h' => cases he
  | index hp' h' =>
    rw [append_cons_assoc, append_cons_assoc] at he
    have he := (List.cons.inj he).2
    obtain ⟨rfl, heq⟩ := ih hp' trivial he (Goal.stopsAt_cons.mpr rfl)
      (Goal.stopsAt_cons.mpr rfl)
    cases heq
    cases (show _ = _ from ha)
    obtain ⟨rfl, heq⟩ := ih' h' rfl (List.cons.inj (List.append_cancel_left he)).2 hr hr'
    cases heq
    exact ⟨rfl, rfl⟩
  | _ => exact False.elim ha

/-! ### Operands without signs -/

def Lexeme.atom? : Lexeme → Option Term
  | .number digits => some (.number digits)
  | .text content => some (.text content)
  | .literal source => some (.literal source)
  | .context name => some (.context name)
  | _ => none

theorem unique_atom {l t} (hl : l.atom? = some t) : Unique G [l] (.primary t) := by
  intro ls' goal' r r' h' ha he hr hr'
  cases h' with
  | number | text | literal | context =>
    cases he
    cases hl
    exact ⟨rfl, rfl⟩
  | name hl' =>
    cases he
    cases l <;> cases hl <;> cases hl'
  | _ => first | exact False.elim ha | (cases he; cases hl)

theorem unique_name {l name} (hl : l.word? = some name) : Unique G [l] (.primary (.name name)) := by
  intro ls' goal' r r' h' ha he hr hr'
  cases h' with
  | name hl' =>
    cases he
    cases Option.some.inj (hl.symm.trans hl')
    exact ⟨rfl, rfl⟩
  | call hk h' =>
    have he' : r = _ := (List.cons.inj he).2
    rw [he'] at hr
    cases Goal.stopsAt_cons.mp hr
  | _ => first | exact False.elim ha | (cases he; cases hl)

theorem unique_call {ls function terms} (ih : Unique G ls (.args terms)) :
    Unique G (.ident function :: .leftParen :: ls ++ [.rightParen])
      (.primary (.call function terms)) := by
  intro ls' goal' r r' h' ha he hr hr'
  cases h' with
  | name hl' =>
    have he' : _ = r' := (List.cons.inj he).2
    rw [← he'] at hr'
    cases Goal.stopsAt_cons.mp hr'
  | call hk' h' =>
    rw [append_cons_assoc, append_cons_assoc] at he
    obtain ⟨hf, he'⟩ := List.cons.inj he
    cases hf
    obtain ⟨rfl, heq⟩ := ih h' trivial (List.cons.inj he').2 (Goal.stopsAt_cons.mpr rfl)
      (Goal.stopsAt_cons.mpr rfl)
    cases heq
    exact ⟨rfl, rfl⟩
  | _ => first | exact False.elim ha | cases he

theorem unique_group {ls t} (ih : Unique G ls (.rule t)) :
    Unique G (.leftParen :: ls ++ [.rightParen]) (.primary t) := by
  intro ls' goal' r r' h' ha he hr hr'
  cases h' with
  | group h' =>
    rw [append_cons_assoc, append_cons_assoc] at he
    obtain ⟨rfl, heq⟩ := ih h' trivial (List.cons.inj he).2 (Goal.stopsAt_cons.mpr rfl)
      (Goal.stopsAt_cons.mpr rfl)
    cases heq
    exact ⟨rfl, rfl⟩
  | name hl' => cases he; cases hl'
  | _ => first | exact False.elim ha | cases he

theorem unique_list {ls terms} (ih : Unique G ls (.args terms)) :
    Unique G (.leftBracket :: ls ++ [.rightBracket]) (.primary (.list terms)) := by
  intro ls' goal' r r' h' ha he hr hr'
  cases h' with
  | list h' =>
    rw [append_cons_assoc, append_cons_assoc] at he
    obtain ⟨rfl, heq⟩ := ih h' trivial (List.cons.inj he).2 (Goal.stopsAt_cons.mpr rfl)
      (Goal.stopsAt_cons.mpr rfl)
    cases heq
    exact ⟨rfl, rfl⟩
  | name hl' => cases he; cases hl'
  | _ => first | exact False.elim ha | cases he

theorem unique_object {ls entries} (ih : Unique G ls (.fields entries)) :
    Unique G (.leftBrace :: ls ++ [.rightBrace]) (.primary (.object entries)) := by
  intro ls' goal' r r' h' ha he hr hr'
  cases h' with
  | object h' =>
    rw [append_cons_assoc, append_cons_assoc] at he
    obtain ⟨rfl, heq⟩ := ih h' trivial (List.cons.inj he).2 (Goal.stopsAt_cons.mpr rfl)
      (Goal.stopsAt_cons.mpr rfl)
    cases heq
    exact ⟨rfl, rfl⟩
  | name hl' => cases he; cases hl'
  | _ => first | exact False.elim ha | cases he

/-! ### What is in brackets -/

theorem unique_noArgs : Unique G [] (.args []) := by
  intro ls' goal' r r' h' ha he hr hr'
  cases h' with
  | noArgs => exact ⟨rfl, rfl⟩
  | args h' => exact (not_stopsAt_append hr he h'.startsWith goesOn_args).elim
  | _ => exact False.elim ha

theorem unique_args {ls terms} (hs : (Goal.items terms).StartsWith ls)
    (ih : Unique G ls (.items terms)) : Unique G ls (.args terms) := by
  intro ls' goal' r r' h' ha he hr hr'
  cases h' with
  | noArgs => exact (not_stopsAt_append hr' he.symm hs goesOn_args).elim
  | args h' =>
    obtain ⟨rfl, heq⟩ := ih h' trivial he (stopsAt_items hr) (stopsAt_items hr')
    cases heq
    exact ⟨rfl, rfl⟩
  | _ => exact False.elim ha

theorem unique_item {ls t} (ih : Unique G ls (.rule t)) : Unique G ls (.items [t]) := by
  intro ls' goal' r r' h' ha he hr hr'
  cases h' with
  | item h' =>
    obtain ⟨rfl, heq⟩ := ih h' trivial he (stopsAt_rule hr) (stopsAt_rule hr')
    cases heq
    exact ⟨rfl, rfl⟩
  | items h' hrest' =>
    rw [append_cons_assoc] at he
    obtain ⟨rfl, -⟩ := ih h' trivial he (stopsAt_rule hr) (Goal.stopsAt_cons.mpr rfl)
    rw [List.append_cancel_left he] at hr
    cases Goal.stopsAt_cons.mp hr
  | _ => exact False.elim ha

theorem unique_items {ls ls' t terms} (ih : Unique G ls (.rule t))
    (ih' : Unique G ls' (.items terms)) : Unique G (ls ++ .comma :: ls') (.items (t :: terms)) := by
  intro ls' goal' r r' h' ha he hr hr'
  rw [append_cons_assoc] at he
  cases h' with
  | item h' =>
    obtain ⟨rfl, -⟩ := ih h' trivial he (Goal.stopsAt_cons.mpr rfl) (stopsAt_rule hr')
    rw [← List.append_cancel_left he] at hr'
    cases Goal.stopsAt_cons.mp hr'
  | items h' hrest' =>
    rw [append_cons_assoc] at he
    obtain ⟨rfl, heq⟩ := ih h' trivial he (Goal.stopsAt_cons.mpr rfl) (Goal.stopsAt_cons.mpr rfl)
    obtain ⟨rfl, heq'⟩ := ih' hrest' trivial (List.cons.inj (List.append_cancel_left he)).2 hr hr'
    cases heq
    cases heq'
    exact ⟨rfl, rfl⟩
  | _ => exact False.elim ha

theorem unique_noFields : Unique G [] (.fields []) := by
  intro ls' goal' r r' h' ha he hr hr'
  cases h' with
  | noFields => exact ⟨rfl, rfl⟩
  | fields h' => exact (not_stopsAt_append hr he (entries_head h'.startsWith) goesOn_fields).elim
  | _ => exact False.elim ha

theorem unique_fields {ls entries} (hs : (Goal.entries entries).StartsWith ls)
    (ih : Unique G ls (.entries entries)) : Unique G ls (.fields entries) := by
  intro ls' goal' r r' h' ha he hr hr'
  cases h' with
  | noFields => exact (not_stopsAt_append hr' he.symm (entries_head hs) goesOn_fields).elim
  | fields h' =>
    obtain ⟨rfl, heq⟩ := ih h' trivial he (stopsAt_entries hr) (stopsAt_entries hr')
    cases heq
    exact ⟨rfl, rfl⟩
  | _ => exact False.elim ha

theorem unique_entry {ls l key t} (hl : l.key? = some key) (ih : Unique G ls (.rule t)) :
    Unique G (l :: .colon :: ls) (.entries [(key, t)]) := by
  intro ls' goal' r r' h' ha he hr hr'
  cases h' with
  | entry hl' h' =>
    obtain ⟨rfl, he'⟩ := List.cons.inj he
    obtain ⟨rfl, heq⟩ := ih h' trivial (List.cons.inj he').2 (stopsAt_rule_entries hr)
      (stopsAt_rule_entries hr')
    cases heq
    cases Option.some.inj (hl.symm.trans hl')
    exact ⟨rfl, rfl⟩
  | entries hl' h' hrest' =>
    rw [append_cons_assoc] at he
    obtain ⟨rfl, he'⟩ := List.cons.inj he
    have he' := (List.cons.inj he').2
    obtain ⟨rfl, -⟩ := ih h' trivial he' (stopsAt_rule_entries hr) (Goal.stopsAt_cons.mpr rfl)
    rw [List.append_cancel_left he'] at hr
    cases Goal.stopsAt_cons.mp hr
  | _ => exact False.elim ha

theorem unique_entries {ls ls' l key t entries} (hl : l.key? = some key)
    (ih : Unique G ls (.rule t)) (ih' : Unique G ls' (.entries entries)) :
    Unique G (l :: .colon :: ls ++ .comma :: ls') (.entries ((key, t) :: entries)) := by
  intro ls' goal' r r' h' ha he hr hr'
  rw [append_cons_assoc] at he
  cases h' with
  | entry hl' h' =>
    obtain ⟨rfl, he'⟩ := List.cons.inj he
    have he' := (List.cons.inj he').2
    obtain ⟨rfl, -⟩ := ih h' trivial he' (Goal.stopsAt_cons.mpr rfl) (stopsAt_rule_entries hr')
    rw [← List.append_cancel_left he'] at hr'
    cases Goal.stopsAt_cons.mp hr'
  | entries hl' h' hrest' =>
    rw [append_cons_assoc] at he
    obtain ⟨rfl, he'⟩ := List.cons.inj he
    have he' := (List.cons.inj he').2
    obtain ⟨rfl, heq⟩ := ih h' trivial he' (Goal.stopsAt_cons.mpr rfl)
      (Goal.stopsAt_cons.mpr rfl)
    obtain ⟨rfl, heq'⟩ := ih' hrest' trivial (List.cons.inj (List.append_cancel_left he')).2
      hr hr'
    cases heq
    cases heq'
    cases Option.some.inj (hl.symm.trans hl')
    exact ⟨rfl, rfl⟩
  | _ => exact False.elim ha

/-- **There is one derivation at most**, where the chains of a derivation group in one way only. -/
theorem Derives.unique {G G' : Grouping}
    (hG : ∀ first rest t t', G first rest t → G' first rest t' → t' = t)
    {ls : List Lexeme} {goal : Goal} (h : Derives G ls goal) : Unique G' ls goal := by
  induction h with
  | rule _ hg ih => exact unique_rule (fun t' => hG _ _ _ t' hg) ih
  | last _ ih => exact unique_last ih
  | more _ hl _ ih ih' => exact unique_more ih hl ih'
  | not _ ih => exact unique_not ih
  | neg _ ih => exact unique_neg ih
  | plain h hs ih ih' => exact unique_plain h.startsWith hs.startsWith ih ih'
  | done => exact unique_done
  | member hl _ ih => exact unique_member hl ih
  | index _ _ ih ih' => exact unique_index ih ih'
  | number => exact unique_atom rfl
  | text => exact unique_atom rfl
  | literal => exact unique_atom rfl
  | context => exact unique_atom rfl
  | name hl => exact unique_name hl
  | call _ _ ih => exact unique_call ih
  | group _ ih => exact unique_group ih
  | list _ ih => exact unique_list ih
  | object _ ih => exact unique_object ih
  | noArgs => exact unique_noArgs
  | args h ih => exact unique_args h.startsWith ih
  | item _ ih => exact unique_item ih
  | items _ _ ih ih' => exact unique_items ih ih'
  | noFields => exact unique_noFields
  | fields h ih => exact unique_fields h.startsWith ih
  | entry hl _ ih => exact unique_entry hl ih
  | entries hl _ _ ih ih' => exact unique_entries hl ih ih'

end AdaptiveForm.Rule
