import AdaptiveForm.Formula.Cell

/-!
# Expressions

The syntax tree of a formula. Parentheses are kept as groups, so that a tree remembers how it was
written.
-/

namespace AdaptiveForm.Formula

inductive UnaryOp where
  | neg
  | plus
  deriving DecidableEq, Repr

inductive BinaryOp where
  | add
  | sub
  | mul
  | div
  | pow
  | concat
  | eq
  | ne
  | lt
  | le
  | gt
  | ge
  deriving DecidableEq, Repr

/-- How tightly an operator binds: comparisons loosest, then `&`, sums, products and powers. -/
def BinaryOp.rank : BinaryOp → Nat
  | .eq | .ne | .lt | .le | .gt | .ge => 1
  | .concat => 2
  | .add | .sub => 3
  | .mul | .div => 4
  | .pow => 5

/-- A formula. A number is kept as written, a name is any identifier that is neither a cell nor a
truth value. -/
inductive Expr where
  | number (digits : String)
  | text (content : String)
  | bool (value : Bool)
  | cell (cell : Cell)
  | range (first last : Cell)
  | name (name : String)
  | call (function : String) (args : List Expr)
  | unary (op : UnaryOp) (operand : Expr)
  | percent (operand : Expr)
  | binary (op : BinaryOp) (left right : Expr)
  | group (inner : Expr)
  deriving Repr

/-- The operand that a name by itself is. -/
def Expr.ofName (name : String) : Expr :=
  match Cell.ofName? name with
  | some ref => .cell ref
  | none => if name = "true" then .bool true else if name = "false" then .bool false else .name name

end AdaptiveForm.Formula
