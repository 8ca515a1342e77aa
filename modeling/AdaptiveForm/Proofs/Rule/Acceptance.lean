import AdaptiveForm.Proofs.Rule.Grammar
import AdaptiveForm.Rule.Check

/-!
# Derived rules pass the check

Reading what is derived takes the check from a state in which it can begin to one in which it is
complete, and the brackets that were open before are open again.  `Goal.Accepted` says this for
each kind of goal: an operand is read where an operand may begin, properties and indices behind a
complete operand, arguments and entries behind their opening bracket and with the closing one.
-/

namespace AdaptiveForm.Rule

/-! ### Checking many tokens -/

def Checking.steps (checking : Checking) (kinds : List Kind) : Except Fault Checking :=
  kinds.foldlM Checking.step checking

@[simp] theorem Checking.steps_nil (checking : Checking) : checking.steps [] = .ok checking := rfl

theorem Checking.steps_cons_of_ok {checking next : Checking} {kind : Kind}
    (h : checking.step kind = .ok next) (kinds : List Kind) :
    checking.steps (kind :: kinds) = next.steps kinds := by
  rw [Checking.steps, List.foldlM_cons, h]
  rfl

theorem Checking.steps_append_of_ok {checking next : Checking} {kinds : List Kind}
    (h : checking.steps kinds = .ok next) (kinds' : List Kind) :
    checking.steps (kinds ++ kinds') = next.steps kinds' := by
  rw [Checking.steps] at h ⊢
  rw [List.foldlM_append, h]
  rfl

theorem Checking.run_of_steps (size : Nat) : ∀ (tokens : List Token) {checking next : Checking},
    checking.steps (tokens.map Token.kind) = .ok next → next.finish = .ok () →
    checking.run size tokens = .ok () := by
  intro tokens
  induction tokens with
  | nil =>
    intro checking next hs hf
    cases hs
    rw [Checking.run, hf]
  | cons token tokens ih =>
    intro checking next hs hf
    rw [Checking.run]
    cases hk : checking.step token.kind with
    | error fault =>
      rw [List.map_cons, Checking.steps, List.foldlM_cons, hk] at hs
      cases hs
    | ok between =>
      rw [List.map_cons, Checking.steps_cons_of_ok hk] at hs
      exact ih hs hf

/-! ### Complete operands -/

/-- An operand is complete, and `opened` is open. -/
inductive Ready (opened : List Bracket) : Checking → Prop
  | complete : Ready opened ⟨.complete, opened⟩
  | word (name : String) : Ready opened ⟨.word name, opened⟩

theorem Ready.step {opened : List Bracket} {checking : Checking} (h : Ready opened checking)
    {kind : Kind} (hk : kind ≠ .leftParen) : checking.step kind = readAfter opened kind := by
  cases h with
  | complete => rfl
  | word name => cases kind <;> first | rfl | exact absurd rfl hk

theorem Ready.finish {checking : Checking} (h : Ready [] checking) : checking.finish = .ok () := by
  cases h <;> rfl

inductive Opens : Phase → Prop
  | operand : Opens .operand
  | item : Opens .item

theorem Opens.step {phase : Phase} (h : Opens phase) (opened : List Bracket) {kind : Kind}
    (hp : kind ≠ .rightParen) (hb : kind ≠ .rightBracket) :
    Checking.step ⟨phase, opened⟩ kind = readOperand opened kind := by
  cases h with
  | operand => rfl
  | item => cases kind <;> first | rfl | exact absurd rfl hp | exact absurd rfl hb

inductive OpensEntry : Phase → Prop
  | firstKey : OpensEntry .firstKey
  | key : OpensEntry .key

/-! ### Reading what is derived -/

def ReadsOperand (kinds : List Kind) : Prop :=
  ∀ phase, Opens phase → ∀ opened, ∃ next,
    Checking.steps ⟨phase, opened⟩ kinds = .ok next ∧ Ready opened next

/-- Reading the tokens behind the bracket ends at its closing partner. -/
def ReadsInside (bracket : Bracket) (phase : Phase) (closing : Kind) (kinds : List Kind) : Prop :=
  ∀ outer, Checking.steps ⟨phase, bracket :: outer⟩ (kinds ++ [closing]) =
    .ok ⟨.complete, outer⟩

/-- How the check reads what is derived as a goal. -/
def Goal.Accepted : Goal → List Kind → Prop
  | .rule _, kinds | .chain _ _, kinds | .operand _, kinds | .primary _, kinds =>
    ReadsOperand kinds
  | .suffixes _ _, kinds => ∀ opened checking, Ready opened checking → ∃ next,
    checking.steps kinds = .ok next ∧ Ready opened next
  | .args _, kinds => ReadsInside .call .item .rightParen kinds ∧
    ReadsInside .list .item .rightBracket kinds
  | .items _, kinds => ∀ phase, Opens phase → ReadsInside .call phase .rightParen kinds ∧
    ReadsInside .list phase .rightBracket kinds
  | .fields _, kinds => ReadsInside .object .firstKey .rightBrace kinds
  | .entries _, kinds => ∀ phase, OpensEntry phase → ReadsInside .object phase .rightBrace kinds

theorem readsOperand_single {kind : Kind} (hp : kind ≠ .rightParen) (hb : kind ≠ .rightBracket)
    (h : ∀ opened, ∃ next, readOperand opened kind = .ok next ∧ Ready opened next) :
    ReadsOperand [kind] := by
  intro phase ho opened
  obtain ⟨next, hr, hready⟩ := h opened
  exact ⟨next, by rw [Checking.steps_cons_of_ok ((ho.step opened hp hb).trans hr)]; rfl, hready⟩

theorem readsOperand_cons {kind : Kind} {kinds : List Kind} (hp : kind ≠ .rightParen)
    (hb : kind ≠ .rightBracket) (hk : ∀ opened, readOperand opened kind = .ok ⟨.operand, opened⟩)
    (h : ReadsOperand kinds) : ReadsOperand (kind :: kinds) := by
  intro phase ho opened
  obtain ⟨next, hs, hready⟩ := h .operand .operand opened
  exact ⟨next, by rw [Checking.steps_cons_of_ok ((ho.step opened hp hb).trans (hk opened)), hs],
    hready⟩

theorem readsOperand_bracket (opening : Kind) {closing : Kind} {bracket : Bracket} {phase : Phase}
    {kinds : List Kind} (hp : opening ≠ .rightParen) (hb : opening ≠ .rightBracket)
    (hk : ∀ opened, readOperand opened opening = .ok ⟨phase, bracket :: opened⟩)
    (h : ReadsInside bracket phase closing kinds) :
    ReadsOperand (opening :: kinds ++ [closing]) := by
  intro phase' ho opened
  refine ⟨⟨.complete, opened⟩, ?_, .complete⟩
  rw [List.cons_append, Checking.steps_cons_of_ok ((ho.step opened hp hb).trans (hk opened)),
    h opened]

/-- A closing bracket ends what was read behind its opening one. -/
theorem steps_closing {checking next : Checking} {kinds : List Kind} {bracket : Bracket}
    {outer : List Bracket} {closing : Kind} (hs : checking.steps kinds = .ok next)
    (hready : Ready (bracket :: outer) next) (hp : closing ≠ .leftParen)
    (hk : readAfter (bracket :: outer) closing = .ok ⟨.complete, outer⟩) :
    checking.steps (kinds ++ [closing]) = .ok ⟨.complete, outer⟩ := by
  rw [Checking.steps_append_of_ok hs, Checking.steps_cons_of_ok ((hready.step hp).trans hk)]
  rfl

theorem readsInside_last {bracket : Bracket} {phase : Phase} {closing : Kind} {kinds : List Kind}
    (ho : Opens phase) (h : ReadsOperand kinds) (hp : closing ≠ .leftParen)
    (hk : ∀ outer, readAfter (bracket :: outer) closing = .ok ⟨.complete, outer⟩) :
    ReadsInside bracket phase closing kinds := by
  intro outer
  obtain ⟨next, hs, hready⟩ := h phase ho (bracket :: outer)
  exact steps_closing hs hready hp (hk outer)

theorem readsInside_comma {bracket : Bracket} {phase : Phase} {closing : Kind}
    {kinds kinds' : List Kind} (ho : Opens phase) (h : ReadsOperand kinds)
    (hk : ∀ outer, readAfter (bracket :: outer) .comma = .ok ⟨.operand, bracket :: outer⟩)
    (h' : ReadsInside bracket .operand closing kinds') :
    ReadsInside bracket phase closing (kinds ++ .comma :: kinds') := by
  intro outer
  obtain ⟨next, hs, hready⟩ := h phase ho (bracket :: outer)
  have hcomma := (hready.step (by simp)).trans (hk outer)
  rw [List.append_assoc, Checking.steps_append_of_ok hs, List.cons_append,
    Checking.steps_cons_of_ok hcomma]
  exact h' outer

theorem symbol?_kind {l : Lexeme} {symbol : String} (h : l.symbol? = some symbol) :
    l.kind ≠ .leftParen ∧ ∀ opened, readAfter opened l.kind = .ok ⟨.operand, opened⟩ := by
  cases l <;> first | exact ⟨by simp, fun _ => rfl⟩ | cases h

theorem word?_kind {l : Lexeme} {name : String} (h : l.word? = some name) :
    ∃ word, l.kind = .ident word := by
  cases l <;> first | exact ⟨_, rfl⟩ | cases h

theorem key?_step {l : Lexeme} {key : String} (h : l.key? = some key) {phase : Phase}
    (hp : OpensEntry phase) (opened : List Bracket) :
    Checking.step ⟨phase, opened⟩ l.kind = .ok ⟨.colon, opened⟩ := by
  cases l <;> first | (cases hp <;> rfl) | cases h

theorem steps_entry {l : Lexeme} {key : String} (h : l.key? = some key) {phase : Phase}
    (hp : OpensEntry phase) {kinds : List Kind} (hk : ReadsOperand kinds)
    (opened : List Bracket) : ∃ next,
      Checking.steps ⟨phase, opened⟩ (l.kind :: .colon :: kinds) = .ok next ∧
        Ready opened next := by
  obtain ⟨next, hs, hready⟩ := hk .operand .operand opened
  refine ⟨next, ?_, hready⟩
  rw [Checking.steps_cons_of_ok (key?_step h hp opened), Checking.steps_cons_of_ok rfl, hs]

/-- **What is derived passes the check.** -/
theorem Derives.accepted {G : Grouping} {ls : List Lexeme} {goal : Goal} (h : Derives G ls goal) :
    goal.Accepted (ls.map Lexeme.kind) := by
  induction h with
  | rule _ _ ih => exact ih
  | last _ ih => exact ih
  | more _ hl _ ih ih' =>
    intro phase ho opened
    obtain ⟨next, hs, hready⟩ := ih phase ho opened
    obtain ⟨next', hs', hready'⟩ := ih' .operand .operand opened
    obtain ⟨hp, hk⟩ := symbol?_kind hl
    refine ⟨next', ?_, hready'⟩
    rw [List.map_append, List.map_cons, Checking.steps_append_of_ok hs,
      Checking.steps_cons_of_ok ((hready.step hp).trans (hk opened)), hs']
  | not _ ih => exact readsOperand_cons (by simp) (by simp) (fun _ => rfl) ih
  | neg _ ih => exact readsOperand_cons (by simp) (by simp) (fun _ => rfl) ih
  | plain _ _ ih ih' =>
    intro phase ho opened
    obtain ⟨next, hs, hready⟩ := ih phase ho opened
    obtain ⟨next', hs', hready'⟩ := ih' opened next hready
    exact ⟨next', by rw [List.map_append, Checking.steps_append_of_ok hs, hs'], hready'⟩
  | done => exact fun opened checking hready => ⟨checking, rfl, hready⟩
  | @member ls l _ _ _ hl _ ih =>
    intro opened checking hready
    obtain ⟨word, hw⟩ := word?_kind hl
    obtain ⟨next, hs, hready'⟩ := ih opened ⟨.complete, opened⟩ .complete
    have hdot : checking.step Lexeme.dot.kind = .ok ⟨.property, opened⟩ := hready.step (by simp)
    have hname : Checking.step ⟨.property, opened⟩ l.kind = .ok ⟨.complete, opened⟩ := by
      rw [hw]
      rfl
    refine ⟨next, ?_, hready'⟩
    rw [List.map_cons, List.map_cons, Checking.steps_cons_of_ok hdot,
      Checking.steps_cons_of_ok hname, hs]
  | @index ls ls' _ _ _ _ _ ih ih' =>
    intro opened checking hready
    obtain ⟨next, hs, hnext⟩ := ih .operand .operand (.index :: opened)
    obtain ⟨last, hs', hlast⟩ := ih' opened ⟨.complete, opened⟩ .complete
    have hopen : checking.step Lexeme.leftBracket.kind = .ok ⟨.operand, .index :: opened⟩ :=
      hready.step (by simp)
    have hclose : next.step Lexeme.rightBracket.kind = .ok ⟨.complete, opened⟩ :=
      hnext.step (by simp)
    refine ⟨last, ?_, hlast⟩
    rw [List.cons_append, List.map_cons, List.map_append, List.map_cons,
      Checking.steps_cons_of_ok hopen, Checking.steps_append_of_ok hs,
      Checking.steps_cons_of_ok hclose, hs']
  | number => exact readsOperand_single (by simp) (by simp) fun _ => ⟨_, rfl, .complete⟩
  | text => exact readsOperand_single (by simp) (by simp) fun _ => ⟨_, rfl, .complete⟩
  | literal => exact readsOperand_single (by simp) (by simp) fun _ => ⟨_, rfl, .complete⟩
  | context => exact readsOperand_single (by simp) (by simp) fun _ => ⟨_, rfl, .complete⟩
  | name hl =>
    obtain ⟨word, hw⟩ := word?_kind hl
    rw [List.map_singleton, hw]
    exact readsOperand_single (by simp) (by simp) fun _ => ⟨_, rfl, .word word⟩
  | @call ls function _ hk _ ih =>
    intro phase ho opened
    have hname : Checking.step ⟨phase, opened⟩ (Lexeme.ident function).kind =
        .ok ⟨.word function, opened⟩ := ho.step opened (by simp) (by simp)
    have hopen : Checking.step ⟨.word function, opened⟩ Lexeme.leftParen.kind =
        .ok ⟨.item, .call :: opened⟩ := by
      rw [Lexeme.kind]
      simp only [Checking.step, if_pos hk]
    refine ⟨⟨.complete, opened⟩, ?_, .complete⟩
    rw [List.cons_append, List.cons_append, List.map_cons, List.map_cons, List.map_append,
      Checking.steps_cons_of_ok hname, Checking.steps_cons_of_ok hopen]
    exact ih.1 opened
  | group _ ih =>
    rw [List.map_append]
    exact readsOperand_bracket .leftParen (by simp) (by simp) (fun _ => rfl)
      (readsInside_last .operand ih (by simp) fun _ => rfl)
  | list _ ih =>
    rw [List.map_append]
    exact readsOperand_bracket .leftBracket (by simp) (by simp) (fun _ => rfl) ih.2
  | object _ ih =>
    rw [List.map_append]
    exact readsOperand_bracket .leftBrace (by simp) (by simp) (fun _ => rfl) ih
  | noArgs => exact ⟨fun _ => rfl, fun _ => rfl⟩
  | args _ ih => exact ih .item .item
  | item _ ih =>
    intro phase ho
    exact ⟨readsInside_last ho ih (by simp) fun _ => rfl,
      readsInside_last ho ih (by simp) fun _ => rfl⟩
  | items _ _ ih ih' =>
    intro phase ho
    rw [List.map_append, List.map_cons]
    exact ⟨readsInside_comma ho ih (fun _ => rfl) (ih' .operand .operand).1,
      readsInside_comma ho ih (fun _ => rfl) (ih' .operand .operand).2⟩
  | noFields => exact fun _ => rfl
  | fields _ ih => exact ih .firstKey .firstKey
  | entry hl _ ih =>
    intro phase hp outer
    obtain ⟨next, hs, hready⟩ := steps_entry hl hp ih (.object :: outer)
    exact steps_closing hs hready (by simp) rfl
  | @entries ls ls' l _ _ _ hl _ _ ih ih' =>
    intro phase hp outer
    obtain ⟨next, hs, hready⟩ := steps_entry hl hp ih (.object :: outer)
    have hcomma : next.step Lexeme.comma.kind = .ok ⟨.key, .object :: outer⟩ :=
      hready.step (by simp)
    have hkinds : (l :: .colon :: ls ++ .comma :: ls').map Lexeme.kind =
        (l.kind :: .colon :: ls.map Lexeme.kind) ++ Lexeme.comma.kind :: ls'.map Lexeme.kind := by
      simp
    rw [hkinds, List.append_assoc, Checking.steps_append_of_ok hs, List.cons_append,
      Checking.steps_cons_of_ok hcomma]
    exact ih' .key .key outer

theorem check_of_derives {G : Grouping} {rule : String} {ls : List Lexeme} {t : Term}
    (hl : lexemes rule.toList = some ls) (h : Derives G ls (.rule t)) : check rule = .ok () := by
  obtain ⟨tokens, hscan, hkinds⟩ := scan_of_lexemes hl
  obtain ⟨next, hs, hready⟩ := h.accepted .operand .operand []
  obtain ⟨l, ls, rfl, -⟩ := h.startsWith
  rw [← hkinds] at hs
  rw [check, hscan]
  cases tokens with
  | nil => cases hkinds
  | cons token tokens => exact Checking.run_of_steps rule.length _ hs hready.finish

end AdaptiveForm.Rule
