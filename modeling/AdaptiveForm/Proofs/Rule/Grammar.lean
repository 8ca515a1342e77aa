import AdaptiveForm.Proofs.Rule.Lexeme
import AdaptiveForm.Rule.Function

/-!
# The grammar of rules

A rule is a chain: operands with operators between them.  An operand may have `!` and `-` before it
and properties and indices behind it, which bind tighter than every operator.  Brackets, calls,
lists and objects hold rules again.

How the operators of a chain group is not the grammar's business.  `Derives` has a parameter `G`
for it: `G first rest term` says that the chain of `first` and the operators and operands in `rest`
may be grouped as `term`.  `Derives.unique` says that this is all there is to choose: a text that
is derived with chains which group in one way only has no second tree.
-/

namespace AdaptiveForm.Rule

/-- A rule as a tree. -/
inductive Term where
  | number (digits : String)
  | text (content : String)
  | literal (source : String)
  | name (name : String)
  | context (name : String)
  | call (function : String) (args : List Term)
  | list (items : List Term)
  | object (entries : List (String × Term))
  | member (owner : Term) (property : String)
  | index (owner place : Term)
  | not (operand : Term)
  | neg (operand : Term)
  | binary (symbol : String) (left right : Term)

def Lexeme.symbol? : Lexeme → Option String
  | .minus => some "-"
  | .operator symbol => some symbol
  | _ => none

def Lexeme.word? : Lexeme → Option String
  | .ident name => some name
  | .quoted name => some name
  | _ => none

def Lexeme.key? : Lexeme → Option String
  | .ident name => some name
  | .quoted name => some name
  | .text content => some content
  | _ => none

inductive Goal where
  | rule (term : Term)
  /-- Operands with operators between them, not yet grouped. -/
  | chain (first : Term) (rest : List (String × Term))
  | operand (term : Term)
  | primary (term : Term)
  /-- Properties and indices behind `owner`, which make `term` of it. -/
  | suffixes (owner term : Term)
  | args (terms : List Term)
  | items (terms : List Term)
  | fields (entries : List (String × Term))
  | entries (entries : List (String × Term))

/-- How chains may be grouped. -/
abbrev Grouping := Term → List (String × Term) → Term → Prop

/-- The grammar of rules. -/
inductive Derives (G : Grouping) : List Lexeme → Goal → Prop
  | rule {ls first rest term} (h : Derives G ls (.chain first rest)) (hg : G first rest term) :
      Derives G ls (.rule term)
  | last {ls t} (h : Derives G ls (.operand t)) : Derives G ls (.chain t [])
  | more {ls ls' l symbol t first rest} (h : Derives G ls (.operand t))
      (hl : l.symbol? = some symbol) (hr : Derives G ls' (.chain first rest)) :
      Derives G (ls ++ l :: ls') (.chain t ((symbol, first) :: rest))
  | not {ls t} (h : Derives G ls (.operand t)) : Derives G (.not :: ls) (.operand (.not t))
  | neg {ls t} (h : Derives G ls (.operand t)) : Derives G (.minus :: ls) (.operand (.neg t))
  | plain {ls ls' owner t} (h : Derives G ls (.primary owner))
      (hs : Derives G ls' (.suffixes owner t)) : Derives G (ls ++ ls') (.operand t)
  | done {t} : Derives G [] (.suffixes t t)
  | member {ls l property owner t} (hl : l.word? = some property)
      (h : Derives G ls (.suffixes (.member owner property) t)) :
      Derives G (.dot :: l :: ls) (.suffixes owner t)
  | index {ls ls' owner place t} (hp : Derives G ls (.rule place))
      (h : Derives G ls' (.suffixes (.index owner place) t)) :
      Derives G (.leftBracket :: ls ++ .rightBracket :: ls') (.suffixes owner t)
  | number {digits} : Derives G [.number digits] (.primary (.number digits))
  | text {content} : Derives G [.text content] (.primary (.text content))
  | literal {source} : Derives G [.literal source] (.primary (.literal source))
  | context {name} : Derives G [.context name] (.primary (.context name))
  | name {l name} (hl : l.word? = some name) : Derives G [l] (.primary (.name name))
  | call {ls function terms} (hk : isKnown function = true) (h : Derives G ls (.args terms)) :
      Derives G (.ident function :: .leftParen :: ls ++ [.rightParen])
        (.primary (.call function terms))
  | group {ls t} (h : Derives G ls (.rule t)) :
      Derives G (.leftParen :: ls ++ [.rightParen]) (.primary t)
  | list {ls terms} (h : Derives G ls (.args terms)) :
      Derives G (.leftBracket :: ls ++ [.rightBracket]) (.primary (.list terms))
  | object {ls entries} (h : Derives G ls (.fields entries)) :
      Derives G (.leftBrace :: ls ++ [.rightBrace]) (.primary (.object entries))
  | noArgs : Derives G [] (.args [])
  | args {ls terms} (h : Derives G ls (.items terms)) : Derives G ls (.args terms)
  | item {ls t} (h : Derives G ls (.rule t)) : Derives G ls (.items [t])
  | items {ls ls' t terms} (h : Derives G ls (.rule t)) (hr : Derives G ls' (.items terms)) :
      Derives G (ls ++ .comma :: ls') (.items (t :: terms))
  | noFields : Derives G [] (.fields [])
  | fields {ls entries} (h : Derives G ls (.entries entries)) : Derives G ls (.fields entries)
  | entry {ls l key t} (hl : l.key? = some key) (h : Derives G ls (.rule t)) :
      Derives G (l :: .colon :: ls) (.entries [(key, t)])
  | entries {ls ls' l key t entries} (hl : l.key? = some key) (h : Derives G ls (.rule t))
      (hr : Derives G ls' (.entries entries)) :
      Derives G (l :: .colon :: ls ++ .comma :: ls') (.entries ((key, t) :: entries))

/-- A derivation stays one when more groupings are allowed. -/
theorem Derives.mono {G G' : Grouping} (hG : ∀ first rest term, G first rest term →
    G' first rest term) {ls : List Lexeme} {goal : Goal} (h : Derives G ls goal) :
    Derives G' ls goal := by
  induction h with
  | rule _ hg ih => exact .rule ih (hG _ _ _ hg)
  | last _ ih => exact .last ih
  | more _ hl _ ih ih' => exact .more ih hl ih'
  | not _ ih => exact .not ih
  | neg _ ih => exact .neg ih
  | plain _ _ ih ih' => exact .plain ih ih'
  | done => exact .done
  | member hl _ ih => exact .member hl ih
  | index _ _ ih ih' => exact .index ih ih'
  | number => exact .number
  | text => exact .text
  | literal => exact .literal
  | context => exact .context
  | name hl => exact .name hl
  | call hk _ ih => exact .call hk ih
  | group _ ih => exact .group ih
  | list _ ih => exact .list ih
  | object _ ih => exact .object ih
  | noArgs => exact .noArgs
  | args _ ih => exact .args ih
  | item _ ih => exact .item ih
  | items _ _ ih ih' => exact .items ih ih'
  | noFields => exact .noFields
  | fields _ ih => exact .fields ih
  | entry hl _ ih => exact .entry hl ih
  | entries hl _ _ ih ih' => exact .entries hl ih ih'

/-! ### Where derived tokens begin and end -/

def Lexeme.startsPrimary : Lexeme → Bool
  | .number _ | .text _ | .literal _ | .ident _ | .quoted _ | .context _ => true
  | .leftParen | .leftBracket | .leftBrace => true
  | _ => false

def Lexeme.startsOperand (l : Lexeme) : Bool :=
  l.startsPrimary || l == .not || l == .minus

def Lexeme.startsSuffix (l : Lexeme) : Bool :=
  l == .dot || l == .leftBracket

def Goal.StartsWith : Goal → List Lexeme → Prop
  | .primary _, ls => ∃ l ls', ls = l :: ls' ∧ l.startsPrimary = true
  | .rule _, ls | .chain _ _, ls | .operand _, ls | .items _, ls =>
    ∃ l ls', ls = l :: ls' ∧ l.startsOperand = true
  | .suffixes _ _, ls => ∀ l ∈ ls.head?, l.startsSuffix = true
  | .entries _, ls => ∃ l ls' key, ls = l :: ls' ∧ l.key? = some key
  | .args _, _ | .fields _, _ => True

theorem startsPrimary_of_word? {l : Lexeme} {name : String} (h : l.word? = some name) :
    l.startsPrimary = true := by
  cases l <;> first | rfl | cases h

theorem Derives.startsWith {G : Grouping} {ls : List Lexeme} {goal : Goal}
    (h : Derives G ls goal) : goal.StartsWith ls := by
  induction h with
  | rule _ _ ih => exact ih
  | last _ ih => exact ih
  | more _ _ _ ih =>
    obtain ⟨l, ls, rfl, hl⟩ := ih
    exact ⟨l, _, rfl, hl⟩
  | not => exact ⟨_, _, rfl, rfl⟩
  | neg => exact ⟨_, _, rfl, rfl⟩
  | plain _ _ ih =>
    obtain ⟨l, ls, rfl, hl⟩ := ih
    exact ⟨l, _, rfl, by simp [Lexeme.startsOperand, hl]⟩
  | done => simp [Goal.StartsWith]
  | member => simp [Goal.StartsWith, Lexeme.startsSuffix]
  | index => simp [Goal.StartsWith, Lexeme.startsSuffix]
  | name hl => exact ⟨_, _, rfl, startsPrimary_of_word? hl⟩
  | noArgs => trivial
  | args => trivial
  | item _ ih => exact ih
  | items _ _ ih =>
    obtain ⟨l, ls, rfl, hl⟩ := ih
    exact ⟨l, _, rfl, hl⟩
  | noFields => trivial
  | fields => trivial
  | entry hl => exact ⟨_, _, _, rfl, hl⟩
  | entries hl => exact ⟨_, _, _, rfl, hl⟩
  | _ => exact ⟨_, _, rfl, rfl⟩

def Goal.goesOn : Goal → Lexeme → Bool
  | .primary _, l => l == .leftParen
  | .operand _, l | .suffixes _ _, l => l == .leftParen || l.startsSuffix
  | .rule _, l | .chain _ _, l => l == .leftParen || l.startsSuffix || l.symbol?.isSome
  | .items _, l | .entries _, l =>
    l == .leftParen || l.startsSuffix || l.symbol?.isSome || l == .comma
  | .args _, l => l != .rightParen && l != .rightBracket
  | .fields _, l => l != .rightBrace

/-- What is derived cannot go on with the tokens behind it. -/
def Goal.StopsAt (goal : Goal) (rest : List Lexeme) : Prop :=
  ∀ l ∈ rest.head?, goal.goesOn l = false

theorem Goal.stopsAt_cons {goal : Goal} {l : Lexeme} {rest : List Lexeme} :
    goal.StopsAt (l :: rest) ↔ goal.goesOn l = false := by
  simp [Goal.StopsAt]

theorem Goal.stopsAt_nil (goal : Goal) : goal.StopsAt [] := by
  simp [Goal.StopsAt]

theorem Goal.StopsAt.mono {goal goal' : Goal} {rest : List Lexeme} (h : goal.StopsAt rest)
    (hg : ∀ l, goal.goesOn l = false → goal'.goesOn l = false) : goal'.StopsAt rest :=
  fun l hl => hg l (h l hl)

def Goal.Alike : Goal → Goal → Prop
  | .rule _, .rule _ | .chain _ _, .chain _ _ | .operand _, .operand _ => True
  | .primary _, .primary _ | .args _, .args _ | .items _, .items _ => True
  | .fields _, .fields _ | .entries _, .entries _ => True
  | .suffixes owner _, .suffixes owner' _ => owner = owner'
  | _, _ => False

end AdaptiveForm.Rule
