import AdaptiveForm.Proofs.Rule.Acceptance
import Mathlib.Tactic.SplitIfs

/-!
# What passes the check is derived

While the check reads tokens, every one of them is kept in what it takes to make a rule of them.
`Within` says so for the brackets that stand open: before each of them there is a beginning of a
rule, and behind it there are whole items or entries.  `Read` says it for a state of the check, and
`Read.step` that each token keeps it.  At the end no bracket is open, and the tokens are a rule, so
that the check accepts the grammar and nothing else, `check_eq_ok_iff`.
-/

namespace AdaptiveForm.Rule

/-! ### Derived tokens -/

def anyGrouping : Grouping := fun _ _ _ => True

def MakesRule (ls : List Lexeme) : Prop :=
  ∃ first rest, Derives anyGrouping ls (.chain first rest)

def MakesOperand (ls : List Lexeme) : Prop :=
  ∃ t, Derives anyGrouping ls (.operand t)

def MakesUnsigned (ls : List Lexeme) : Prop :=
  ∃ primary suffixes owner t, ls = primary ++ suffixes ∧
    Derives anyGrouping primary (.primary owner) ∧
    Derives anyGrouping suffixes (.suffixes owner t)

def MakesArgs (ls : List Lexeme) : Prop :=
  ∃ terms, Derives anyGrouping ls (.args terms)

def MakesFields (ls : List Lexeme) : Prop :=
  ∃ entries, Derives anyGrouping ls (.fields entries)

variable {ls ls' : List Lexeme} {l : Lexeme}

theorem MakesRule.derives (h : MakesRule ls) : ∃ t, Derives anyGrouping ls (.rule t) := by
  obtain ⟨first, rest, h⟩ := h
  exact ⟨first, .rule h trivial⟩

theorem MakesUnsigned.of_primary {t : Term} (h : Derives anyGrouping ls (.primary t)) :
    MakesUnsigned ls :=
  ⟨ls, [], t, t, (List.append_nil ls).symm, h, .done⟩

theorem MakesUnsigned.operand (h : MakesUnsigned ls) : MakesOperand ls := by
  obtain ⟨primary, suffixes, owner, t, rfl, hp, hs⟩ := h
  exact ⟨t, .plain hp hs⟩

theorem Derives.suffixes_append {G : Grouping} {owner t t' : Term}
    (h : Derives G ls (.suffixes owner t)) (h' : Derives G ls' (.suffixes t t')) :
    Derives G (ls ++ ls') (.suffixes owner t') := by
  generalize hg : Goal.suffixes owner t = goal at h
  induction h generalizing owner with
  | done =>
    cases hg
    exact h'
  | member hl h ih =>
    cases hg
    exact .member hl (ih rfl)
  | index hp h _ ih =>
    cases hg
    rw [List.append_assoc, List.cons_append]
    exact .index hp (ih rfl)
  | _ => cases hg

theorem MakesUnsigned.append (h : MakesUnsigned ls)
    (h' : ∀ owner, ∃ t, Derives anyGrouping ls' (.suffixes owner t)) :
    MakesUnsigned (ls ++ ls') := by
  obtain ⟨primary, suffixes, owner, t, rfl, hp, hs⟩ := h
  obtain ⟨t', ht'⟩ := h' t
  exact ⟨primary, suffixes ++ ls', owner, t', List.append_assoc _ _ _, hp, hs.suffixes_append ht'⟩

theorem MakesUnsigned.member {property : String} (h : MakesUnsigned ls)
    (hl : l.word? = some property) : MakesUnsigned (ls ++ [.dot, l]) :=
  h.append fun owner => ⟨.member owner property, .member hl .done⟩

theorem MakesUnsigned.index (h : MakesUnsigned ls) (h' : MakesRule ls') :
    MakesUnsigned (ls ++ (.leftBracket :: ls' ++ [.rightBracket])) := by
  obtain ⟨place, hp⟩ := h'.derives
  exact h.append fun owner => ⟨.index owner place, .index hp .done⟩

theorem MakesRule.group (h : MakesRule ls) :
    MakesUnsigned (.leftParen :: ls ++ [.rightParen]) := by
  obtain ⟨t, h⟩ := h.derives
  exact .of_primary (.group h)

theorem MakesArgs.list (h : MakesArgs ls) :
    MakesUnsigned (.leftBracket :: ls ++ [.rightBracket]) := by
  obtain ⟨terms, h⟩ := h
  exact .of_primary (.list h)

theorem MakesArgs.call {function : String} (hk : isKnown function = true) (h : MakesArgs ls) :
    MakesUnsigned (.ident function :: .leftParen :: ls ++ [.rightParen]) := by
  obtain ⟨terms, h⟩ := h
  exact .of_primary (.call hk h)

theorem MakesFields.object (h : MakesFields ls) :
    MakesUnsigned (.leftBrace :: ls ++ [.rightBrace]) := by
  obtain ⟨entries, h⟩ := h
  exact .of_primary (.object h)

theorem MakesOperand.rule (h : MakesOperand ls) : MakesRule ls := by
  obtain ⟨t, h⟩ := h
  exact ⟨t, [], .last h⟩

theorem MakesRule.operator {symbol : String} (h : MakesRule ls) (hl : l.symbol? = some symbol)
    (h' : MakesOperand ls') : MakesRule (ls ++ l :: ls') := by
  obtain ⟨first, rest, h⟩ := h
  obtain ⟨t', h'⟩ := h'
  refine ⟨first, ?_⟩
  induction rest generalizing ls first with
  | nil =>
    cases h with
    | last h => exact ⟨_, .more h hl (.last h')⟩
  | cons link rest ih =>
    cases h with
    | more h hl hr =>
      obtain ⟨rest', hrest⟩ := ih _ hr
      rw [List.append_assoc, List.cons_append]
      exact ⟨_, .more h hl hrest⟩

/-! ### What stands open -/

/-- Behind the tokens an operand makes a rule: they are signs, behind nothing or an operator. -/
inductive Awaits : List Lexeme → Prop
  | nil : Awaits []
  | sign {ls : List Lexeme} {l : Lexeme} (h : Awaits ls) (hl : l = .not ∨ l = .minus) :
      Awaits (ls ++ [l])
  | operator {ls : List Lexeme} {l : Lexeme} {symbol : String} (h : MakesRule ls)
      (hl : l.symbol? = some symbol) : Awaits (ls ++ [l])

theorem Awaits.rule (h : Awaits ls) (h' : MakesOperand ls') : MakesRule (ls ++ ls') := by
  induction h generalizing ls' with
  | nil => exact h'.rule
  | sign _ hl ih =>
    rw [List.append_assoc, List.singleton_append]
    refine ih ?_
    obtain ⟨t, h'⟩ := h'
    rcases hl with rfl | rfl
    · exact ⟨_, .not h'⟩
    · exact ⟨_, .neg h'⟩
  | operator h hl =>
    rw [List.append_assoc, List.singleton_append]
    exact h.operator hl h'

inductive Listed : List Lexeme → Prop
  | nil : Listed []
  | more {ls ls' : List Lexeme} (h : Listed ls) (hr : MakesRule ls') :
      Listed (ls ++ (ls' ++ [.comma]))

theorem Listed.items (h : Listed ls) {terms : List Term}
    (hi : Derives anyGrouping ls' (.items terms)) :
    ∃ terms', Derives anyGrouping (ls ++ ls') (.items terms') := by
  induction h generalizing ls' terms with
  | nil => exact ⟨_, hi⟩
  | more _ hr ih =>
    obtain ⟨t, hr⟩ := hr.derives
    rw [List.append_assoc, List.append_assoc, List.singleton_append]
    exact ih (.items hr hi)

theorem Listed.args (h : Listed ls) (hr : MakesRule ls') : MakesArgs (ls ++ ls') := by
  obtain ⟨t, hr⟩ := hr.derives
  obtain ⟨terms, hi⟩ := h.items (.item hr)
  exact ⟨terms, .args hi⟩

inductive Entered : List Lexeme → Prop
  | nil : Entered []
  | more {ls ls' : List Lexeme} {l : Lexeme} {key : String} (h : Entered ls)
      (hl : l.key? = some key) (hr : MakesRule ls') :
      Entered (ls ++ (l :: .colon :: ls' ++ [.comma]))

theorem Entered.entries (h : Entered ls) {entries : List (String × Term)}
    (he : Derives anyGrouping ls' (.entries entries)) :
    ∃ entries', Derives anyGrouping (ls ++ ls') (.entries entries') := by
  induction h generalizing ls' entries with
  | nil => exact ⟨_, he⟩
  | more _ hl hr ih =>
    obtain ⟨t, hr⟩ := hr.derives
    rw [List.append_assoc, List.append_assoc, List.singleton_append]
    exact ih (.entries hl hr he)

theorem Entered.fields {key : String} (h : Entered ls) (hl : l.key? = some key)
    (hr : MakesRule ls') : MakesFields (ls ++ l :: .colon :: ls') := by
  obtain ⟨t, hr⟩ := hr.derives
  obtain ⟨entries, he⟩ := h.entries (.entry hl hr)
  exact ⟨entries, .fields he⟩

/-- The tokens through the innermost open bracket and the items or entries behind it.  Before each
bracket stands what awaits an operand, and before that of an index the operand itself. -/
inductive Within : List Bracket → List Lexeme → Prop
  | nil : Within [] []
  | group {outer : List Bracket} {ls as : List Lexeme} (h : Within outer ls) (ha : Awaits as) :
      Within (.group :: outer) (ls ++ as ++ [.leftParen])
  | call {outer : List Bracket} {function : String} {ls as items : List Lexeme}
      (h : Within outer ls) (ha : Awaits as) (hk : isKnown function = true) (hi : Listed items) :
      Within (.call :: outer) (ls ++ as ++ .ident function :: .leftParen :: items)
  | list {outer : List Bracket} {ls as items : List Lexeme} (h : Within outer ls)
      (ha : Awaits as) (hi : Listed items) :
      Within (.list :: outer) (ls ++ as ++ .leftBracket :: items)
  | index {outer : List Bracket} {ls as owner : List Lexeme} (h : Within outer ls)
      (ha : Awaits as) (ho : MakesUnsigned owner) :
      Within (.index :: outer) (ls ++ as ++ owner ++ [.leftBracket])
  | object {outer : List Bracket} {ls as entries : List Lexeme} {l : Lexeme} {key : String}
      (h : Within outer ls) (ha : Awaits as) (he : Entered entries) (hl : l.key? = some key) :
      Within (.object :: outer) (ls ++ as ++ .leftBrace :: entries ++ [l, .colon])

/-! ### States of the check -/

/-- The state has been reached by reading these tokens. -/
inductive Read : Checking → List Lexeme → Prop
  | operand {opened : List Bracket} {ls as : List Lexeme} (h : Within opened ls)
      (ha : Awaits as) : Read ⟨.operand, opened⟩ (ls ++ as)
  | firstArg {outer : List Bracket} {function : String} {ls as : List Lexeme}
      (h : Within outer ls) (ha : Awaits as) (hk : isKnown function = true) :
      Read ⟨.item, .call :: outer⟩ (ls ++ as ++ [.ident function, .leftParen])
  | firstItem {outer : List Bracket} {ls as : List Lexeme} (h : Within outer ls)
      (ha : Awaits as) : Read ⟨.item, .list :: outer⟩ (ls ++ as ++ [.leftBracket])
  | property {opened : List Bracket} {ls as owner : List Lexeme} (h : Within opened ls)
      (ha : Awaits as) (ho : MakesUnsigned owner) :
      Read ⟨.property, opened⟩ (ls ++ as ++ owner ++ [.dot])
  | firstKey {outer : List Bracket} {ls as : List Lexeme} (h : Within outer ls)
      (ha : Awaits as) : Read ⟨.firstKey, .object :: outer⟩ (ls ++ as ++ [.leftBrace])
  | key {outer : List Bracket} {ls as entries : List Lexeme} (h : Within outer ls)
      (ha : Awaits as) (he : Entered entries) :
      Read ⟨.key, .object :: outer⟩ (ls ++ as ++ .leftBrace :: entries)
  | colon {outer : List Bracket} {ls as entries : List Lexeme} {l : Lexeme} {key : String}
      (h : Within outer ls) (ha : Awaits as) (he : Entered entries) (hl : l.key? = some key) :
      Read ⟨.colon, .object :: outer⟩ (ls ++ as ++ .leftBrace :: entries ++ [l])
  | word {opened : List Bracket} {name : String} {ls as : List Lexeme} {l : Lexeme}
      (h : Within opened ls) (ha : Awaits as) (hl : l.kind = .ident name) :
      Read ⟨.word name, opened⟩ (ls ++ as ++ [l])
  | complete {opened : List Bracket} {ls as operand : List Lexeme} (h : Within opened ls)
      (ha : Awaits as) (ho : MakesUnsigned operand) :
      Read ⟨.complete, opened⟩ (ls ++ as ++ operand)

theorem Read.start : Read Checking.start [] := .operand .nil .nil

theorem word?_of_kind {name : String} (h : l.kind = .ident name) : ∃ word, l.word? = some word := by
  cases l <;> first | exact ⟨_, rfl⟩ | cases h

theorem key?_of_kind {opened : List Bracket} {next : Checking}
    (h : readKey opened l.kind = .ok next) :
    ∃ key, l.key? = some key ∧ next = ⟨.colon, opened⟩ := by
  cases l <;> cases h <;> exact ⟨_, rfl, rfl⟩

theorem eq_ident_of_isKnown {name : String} (h : l.kind = .ident name)
    (hk : isKnown name = true) : l = .ident name := by
  cases l with
  | ident found =>
    cases h
    rfl
  | quoted found =>
    cases h
    exact absurd hk (by decide)
  | _ => cases h

variable {opened : List Bracket} {as : List Lexeme}

theorem readOperand_read (h : Within opened ls) (ha : Awaits as) {next : Checking}
    (hn : readOperand opened l.kind = .ok next) : Read next (ls ++ as ++ [l]) := by
  cases l with
  | not =>
    cases hn
    rw [List.append_assoc]
    exact .operand h (.sign ha (.inl rfl))
  | minus =>
    cases hn
    rw [List.append_assoc]
    exact .operand h (.sign ha (.inr rfl))
  | number => cases hn; exact .complete h ha (.of_primary .number)
  | text => cases hn; exact .complete h ha (.of_primary .text)
  | literal => cases hn; exact .complete h ha (.of_primary .literal)
  | context => cases hn; exact .complete h ha (.of_primary .context)
  | ident name => cases hn; exact .word h ha rfl
  | quoted name => cases hn; exact .word h ha rfl
  | leftParen =>
    cases hn
    rw [← List.append_nil (ls ++ as ++ _)]
    exact .operand (.group h ha) .nil
  | leftBracket => cases hn; exact .firstItem h ha
  | leftBrace => cases hn; exact .firstKey h ha
  | _ => cases hn

theorem readAfter_read {operand : List Lexeme} (h : Within opened ls) (ha : Awaits as)
    (ho : MakesUnsigned operand) {next : Checking} (hn : readAfter opened l.kind = .ok next) :
    Read next (ls ++ as ++ operand ++ [l]) := by
  have hrule : MakesRule (as ++ operand) := ha.rule ho.operand
  cases l with
  | operator symbol =>
    cases hn
    simpa using Read.operand h (.operator hrule rfl)
  | minus =>
    cases hn
    simpa using Read.operand h (.operator hrule rfl)
  | dot => cases hn; exact .property h ha ho
  | leftBracket =>
    cases hn
    simpa using Read.operand (.index h ha ho) .nil
  | rightParen =>
    cases h with
    | group h ha =>
      cases hn
      simpa using Read.complete h ha hrule.group
    | call h ha hk hi =>
      cases hn
      simpa using Read.complete h ha ((hi.args hrule).call hk)
    | _ => cases hn
  | rightBracket =>
    cases h with
    | list h ha hi =>
      cases hn
      simpa using Read.complete h ha (hi.args hrule).list
    | index h ha ho =>
      cases hn
      simpa using Read.complete h ha (ho.index hrule)
    | _ => cases hn
  | rightBrace =>
    cases h with
    | object h ha he hl =>
      cases hn
      simpa using Read.complete h ha (he.fields hl hrule).object
    | _ => cases hn
  | comma =>
    cases h with
    | call h ha hk hi =>
      cases hn
      simpa using Read.operand (.call h ha hk (hi.more hrule)) .nil
    | list h ha hi =>
      cases hn
      simpa using Read.operand (.list h ha (hi.more hrule)) .nil
    | object h ha he hl =>
      cases hn
      simpa using Read.key h ha (he.more hl hrule)
    | _ => cases hn
  | _ => cases h <;> cases hn

theorem readKey_read {entries : List Lexeme} (h : Within opened ls) (ha : Awaits as)
    (he : Entered entries) {next : Checking}
    (hn : readKey (.object :: opened) l.kind = .ok next) :
    Read next (ls ++ as ++ .leftBrace :: entries ++ [l]) := by
  obtain ⟨key, hl, rfl⟩ := key?_of_kind hn
  exact .colon h ha he hl

/-- Behind its opening bracket a call or a list is closed, or its first item begins. -/
theorem step_item (outer : List Bracket) {bracket : Bracket} {closing : Lexeme}
    (hb : bracket = .call ∧ closing = .rightParen ∨ bracket = .list ∧ closing = .rightBracket)
    (l : Lexeme) :
    Checking.step ⟨.item, bracket :: outer⟩ l.kind =
      if l = closing then .ok ⟨.complete, outer⟩ else readOperand (bracket :: outer) l.kind := by
  rcases hb with ⟨rfl, rfl⟩ | ⟨rfl, rfl⟩ <;> cases l <;> rfl

theorem step_firstKey (outer : List Bracket) (l : Lexeme) :
    Checking.step ⟨.firstKey, .object :: outer⟩ l.kind =
      if l = .rightBrace then .ok ⟨.complete, outer⟩ else readKey (.object :: outer) l.kind := by
  cases l <;> rfl

theorem step_word (name : String) (opened : List Bracket) (l : Lexeme) :
    Checking.step ⟨.word name, opened⟩ l.kind =
      if l = .leftParen then
        if isKnown name then .ok ⟨.item, .call :: opened⟩ else .error (.unknownFunction name)
      else readAfter opened l.kind := by
  cases l <;> rfl

/-- **Every token that is read is kept.** -/
theorem Read.step {checking next : Checking} (h : Read checking ls)
    (hn : checking.step l.kind = .ok next) : Read next (ls ++ [l]) := by
  cases h with
  | operand h ha => exact readOperand_read h ha hn
  | firstArg h ha hk =>
    rw [step_item _ (.inl ⟨rfl, rfl⟩)] at hn
    split_ifs at hn with hl
    · cases hn
      subst hl
      have hargs : MakesArgs [] := ⟨[], .noArgs⟩
      simpa using Read.complete h ha (hargs.call hk)
    · simpa using readOperand_read (.call h ha hk .nil) .nil hn
  | firstItem h ha =>
    rw [step_item _ (.inr ⟨rfl, rfl⟩)] at hn
    split_ifs at hn with hl
    · cases hn
      subst hl
      have hargs : MakesArgs [] := ⟨[], .noArgs⟩
      simpa using Read.complete h ha hargs.list
    · simpa using readOperand_read (.list h ha .nil) .nil hn
  | property h ha ho =>
    simp only [Checking.step] at hn
    split at hn
    · rename_i hkind
      cases hn
      obtain ⟨word, hword⟩ := word?_of_kind hkind
      simpa using Read.complete h ha (ho.member hword)
    · cases hn
  | firstKey h ha =>
    rw [step_firstKey] at hn
    split_ifs at hn with hl
    · cases hn
      subst hl
      have hfields : MakesFields [] := ⟨[], .noFields⟩
      simpa using Read.complete h ha hfields.object
    · exact readKey_read h ha .nil hn
  | key h ha he => exact readKey_read h ha he hn
  | colon h ha he hl =>
    cases l with
    | colon =>
      cases hn
      simpa using Read.operand (.object h ha he hl) .nil
    | _ => cases hn
  | @word opened name ls as word h ha hword =>
    rw [step_word] at hn
    split_ifs at hn with hl hk
    · cases hn
      subst hl
      rw [eq_ident_of_isKnown hword hk, List.append_assoc]
      exact .firstArg h ha hk
    · obtain ⟨found, hfound⟩ := word?_of_kind hword
      exact readAfter_read h ha (.of_primary (.name hfound)) hn
  | complete h ha ho => exact readAfter_read h ha ho hn

theorem Checking.exists_step_of_steps {checking next : Checking} {kind : Kind}
    {kinds : List Kind} (h : checking.steps (kind :: kinds) = .ok next) :
    ∃ between, checking.step kind = .ok between ∧ between.steps kinds = .ok next := by
  cases hs : checking.step kind with
  | error fault =>
    rw [Checking.steps, List.foldlM_cons, hs] at h
    cases h
  | ok between => exact ⟨between, rfl, by rwa [Checking.steps_cons_of_ok hs] at h⟩

theorem Read.steps {checking next : Checking} (h : Read checking ls)
    (hn : checking.steps (ls'.map Lexeme.kind) = .ok next) : Read next (ls ++ ls') := by
  induction ls' generalizing checking ls with
  | nil =>
    cases hn
    rwa [List.append_nil]
  | cons l ls' ih =>
    obtain ⟨between, hs, hn⟩ := Checking.exists_step_of_steps hn
    have := ih (h.step hs) hn
    rwa [List.append_assoc, List.singleton_append] at this

/-- **What is read to its end is a rule.** -/
theorem Read.finish {checking : Checking} (h : Read checking ls)
    (hf : checking.finish = .ok ()) : MakesRule ls := by
  cases h with
  | word h ha hword =>
    cases h with
    | nil =>
      obtain ⟨found, hfound⟩ := word?_of_kind hword
      exact ha.rule (MakesUnsigned.of_primary (.name hfound)).operand
    | _ => cases hf
  | complete h ha ho =>
    cases h with
    | nil => exact ha.rule ho.operand
    | _ => cases hf
  | _ => cases hf

/-! ### Brackets, commas and calls -/

def Kind.closing? : Kind → Option Kind
  | .leftParen => some .rightParen
  | .leftBracket => some .rightBracket
  | .leftBrace => some .rightBrace
  | _ => none

def Kind.isClosing : Kind → Bool
  | .rightParen | .rightBracket | .rightBrace => true
  | _ => false

/-- The closing tokens that are awaited behind a token, the innermost first. A token that closes
another bracket than the innermost may not stand here. -/
def awaitClosing (awaited : List Kind) (kind : Kind) : Option (List Kind) :=
  match kind.closing? with
  | some closing => some (closing :: awaited)
  | none =>
    if kind.isClosing then
      if awaited.head? = some kind then some awaited.tail else none
    else some awaited

/-- Every bracket is closed, by its own closing token, and nothing else is closed. -/
def Balanced (kinds : List Kind) : Prop :=
  kinds.foldlM awaitClosing [] = some []

/-- A comma may not stand before a closing token, nor an unknown function before its arguments. -/
def MayFollow (kind next : Kind) : Prop :=
  (kind = .comma → next.isClosing = false) ∧
    ∀ name, kind = .ident name → next = .leftParen → isKnown name = true

def Bracket.closing : Bracket → Kind
  | .group | .call => .rightParen
  | .list | .index => .rightBracket
  | .object => .rightBrace

variable {kind : Kind} {checking next : Checking}

theorem awaitClosing_of_readOperand (h : readOperand opened kind = .ok next) :
    awaitClosing (opened.map Bracket.closing) kind = some (next.opened.map Bracket.closing) := by
  cases kind <;> cases h <;> rfl

theorem awaitClosing_of_readKey (h : readKey opened kind = .ok next) :
    awaitClosing (opened.map Bracket.closing) kind = some (next.opened.map Bracket.closing) := by
  cases kind <;> cases h <;> rfl

theorem awaitClosing_of_readAfter (h : readAfter opened kind = .ok next) :
    awaitClosing (opened.map Bracket.closing) kind = some (next.opened.map Bracket.closing) := by
  unfold readAfter at h
  split at h <;> cases h <;> rfl

/-- The brackets that stand open are those whose closing tokens are awaited. -/
theorem awaitClosing_of_step (h : checking.step kind = .ok next) :
    awaitClosing (checking.opened.map Bracket.closing) kind =
      some (next.opened.map Bracket.closing) := by
  obtain ⟨phase, opened⟩ := checking
  cases phase with
  | operand => exact awaitClosing_of_readOperand h
  | item =>
    simp only [Checking.step] at h
    split at h
    · cases h
      rfl
    · cases h
      rfl
    · exact awaitClosing_of_readOperand h
  | property =>
    cases kind <;> cases h
    rfl
  | firstKey =>
    simp only [Checking.step] at h
    split at h
    · cases h
      rfl
    · exact awaitClosing_of_readKey h
  | key => exact awaitClosing_of_readKey h
  | colon =>
    cases kind <;> cases h
    rfl
  | word name =>
    simp only [Checking.step] at h
    split at h
    · split_ifs at h
      cases h
      rfl
    · exact awaitClosing_of_readAfter h
  | complete => exact awaitClosing_of_readAfter h

theorem balanced_of_steps {kinds : List Kind} (h : checking.steps kinds = .ok next)
    (hf : next.finish = .ok ()) :
    kinds.foldlM awaitClosing (checking.opened.map Bracket.closing) = some [] := by
  induction kinds generalizing checking with
  | nil =>
    cases h
    obtain ⟨phase, opened⟩ := next
    cases opened with
    | nil => rfl
    | cons bracket opened => cases phase <;> cases hf
  | cons kind kinds ih =>
    obtain ⟨between, hs, h⟩ := Checking.exists_step_of_steps h
    rw [List.foldlM_cons, awaitClosing_of_step hs]
    exact ih h

theorem phase_of_step_comma (h : checking.step .comma = .ok next) :
    next.phase = .operand ∨ next.phase = .key := by
  have hafter : ∀ {opened}, readAfter opened .comma = .ok next →
      next.phase = .operand ∨ next.phase = .key := by
    intro opened h
    unfold readAfter at h
    split at h <;> cases h <;> simp_all
  obtain ⟨phase, opened⟩ := checking
  cases phase with
  | word name => exact hafter h
  | complete => exact hafter h
  | _ => cases h

/-- Behind a name its arguments may begin if it is a function, and only where it is an operand. -/
theorem phase_of_step_ident {name : String} (h : checking.step (.ident name) = .ok next) :
    next.phase = .word name ∨ next.phase = .complete ∨ next.phase = .colon := by
  have hafter : ∀ {opened}, readAfter opened (.ident name) ≠ .ok next := by
    intro opened h
    unfold readAfter at h
    split at h <;> cases h <;> simp_all
  obtain ⟨phase, opened⟩ := checking
  cases phase with
  | colon => cases h
  | word found => exact absurd h hafter
  | complete => exact absurd h hafter
  | _ =>
    cases h
    simp

theorem mayFollow_of_step {between : Checking} {kind' : Kind}
    (h : checking.step kind = .ok between) (h' : between.step kind' = .ok next) :
    MayFollow kind kind' := by
  obtain ⟨phase, opened⟩ := between
  constructor
  · rintro rfl
    rcases phase_of_step_comma h with hphase | hphase <;> subst hphase <;> cases kind' <;>
      first | rfl | cases h'
  · rintro name rfl rfl
    rcases phase_of_step_ident h with hphase | hphase | hphase <;> subst hphase
    · by_contra hk
      simp [Checking.step, hk] at h'
    · cases h'
    · cases h'

theorem isChain_of_steps {kinds : List Kind} (h : checking.steps kinds = .ok next) :
    kinds.IsChain MayFollow := by
  induction kinds generalizing checking with
  | nil => exact .nil
  | cons kind kinds ih =>
    obtain ⟨between, hs, h⟩ := Checking.exists_step_of_steps h
    cases kinds with
    | nil => exact .singleton kind
    | cons kind' kinds =>
      obtain ⟨after, hs', -⟩ := Checking.exists_step_of_steps h
      exact .cons_cons (mayFollow_of_step hs hs') (ih h)

/-! ### What passes the check -/

def IsRule (kinds : List Kind) : Prop :=
  ∃ ls : List Lexeme, ls.map Lexeme.kind = kinds ∧ MakesRule ls

/-- The tokens of rules are those that can be read to where a rule may end. -/
theorem isRule_iff {kinds : List Kind} :
    IsRule kinds ↔ ∃ next, Checking.start.steps kinds = .ok next ∧ next.finish = .ok () := by
  constructor
  · rintro ⟨ls, rfl, h⟩
    obtain ⟨t, h⟩ := h.derives
    obtain ⟨next, hs, hready⟩ := h.accepted .operand .operand []
    exact ⟨next, hs, hready.finish⟩
  · rintro ⟨next, hs, hf⟩
    -- the check does not look at the texts, so that any will do
    have hkinds : (kinds.map (Lexeme.of [])).map Lexeme.kind = kinds := by
      have hof : Lexeme.kind ∘ Lexeme.of [] = id := funext (Lexeme.kind_of [])
      rw [List.map_map, hof, List.map_id]
    rw [← hkinds] at hs
    exact ⟨_, hkinds, (Read.start.steps hs).finish hf⟩

theorem Checking.run_eq_ok_iff (size : Nat) (tokens : List Token) (checking : Checking) :
    checking.run size tokens = .ok () ↔
      ∃ next, checking.steps (tokens.map Token.kind) = .ok next ∧ next.finish = .ok () := by
  refine ⟨fun h => ?_, fun ⟨next, hs, hf⟩ => Checking.run_of_steps size tokens hs hf⟩
  induction tokens generalizing checking with
  | nil =>
    rw [Checking.run] at h
    refine ⟨checking, rfl, ?_⟩
    cases hf : checking.finish with
    | ok => rfl
    | error fault =>
      rw [hf] at h
      cases h
  | cons token tokens ih =>
    rw [Checking.run] at h
    cases hs : checking.step token.kind with
    | error fault =>
      rw [hs] at h
      cases h
    | ok between =>
      rw [hs] at h
      rw [List.map_cons, Checking.steps_cons_of_ok hs]
      exact ih between h

theorem check_eq_ok_of_scan {rule : String} {tokens : List Token} (h : scan rule = .ok tokens) :
    check rule = .ok () ↔ tokens ≠ [] ∧ IsRule (tokens.map Token.kind) := by
  rw [check, h]
  cases tokens with
  | nil => simp
  | cons token tokens =>
    simp only [Checking.run_eq_ok_iff, ← isRule_iff]
    simp

theorem steps_of_check {rule : String} (h : check rule = .ok ()) :
    ∃ ls next, lexemes rule.toList = some ls ∧
      Checking.start.steps (ls.map Lexeme.kind) = .ok next := by
  cases hscan : scan rule with
  | error e =>
    rw [check, hscan] at h
    cases h
  | ok tokens =>
    obtain ⟨-, hrule⟩ := (check_eq_ok_of_scan hscan).mp h
    obtain ⟨next, hs, -⟩ := isRule_iff.mp hrule
    obtain ⟨ls, hls, hkinds⟩ := Option.map_eq_some_iff.mp
      (exists_scan_iff.mp ⟨tokens, hscan, rfl⟩)
    exact ⟨ls, next, hls, by rw [hkinds, hs]⟩

/-- **The check accepts exactly the grammar.** A rule passes if and only if it can be split into
tokens, it has some, and they are derived as a rule.  Its brackets are closed then, each by its own
closing token, no item is missing behind a comma, and every function is known. -/
theorem check_eq_ok_iff (rule : String) :
    (check rule = .ok () ↔
      ∃ tokens, scan rule = .ok tokens ∧ tokens ≠ [] ∧ IsRule (tokens.map Token.kind)) ∧
    ∀ tokens, scan rule = .ok tokens → check rule = .ok () →
      Balanced (tokens.map Token.kind) ∧ (tokens.map Token.kind).IsChain MayFollow := by
  constructor
  · cases hscan : scan rule with
    | error e => simp [check, hscan]
    | ok tokens => simp [check_eq_ok_of_scan hscan]
  · intro tokens hscan h
    obtain ⟨-, hrule⟩ := (check_eq_ok_of_scan hscan).mp h
    obtain ⟨next, hs, hf⟩ := isRule_iff.mp hrule
    exact ⟨balanced_of_steps hs hf, isChain_of_steps hs⟩

theorem check_eq_ok_iff_nested :
    let rule := "merge($form.a[0], \x7bx: [1, -(2)]\x7d)"
    check rule = .ok () ∧ ∃ tokens, scan rule = .ok tokens ∧ IsRule (tokens.map Token.kind) ∧
      Balanced (tokens.map Token.kind) ∧ (tokens.map Token.kind).IsChain MayFollow := by
  intro rule
  obtain ⟨hiff, hfollow⟩ := check_eq_ok_iff rule
  have hcheck : check "merge($form.a[0], \x7bx: [1, -(2)]\x7d)" = .ok () := by
    with_unfolding_all rfl
  obtain ⟨tokens, hscan, -, hrule⟩ := hiff.mp hcheck
  exact ⟨hcheck, tokens, hscan, hrule, hfollow tokens hscan hcheck⟩

end AdaptiveForm.Rule
