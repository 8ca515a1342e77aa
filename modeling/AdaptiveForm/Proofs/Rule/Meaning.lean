import AdaptiveForm.Proofs.Rule.Grouping
import AdaptiveForm.Proofs.Rule.Piece

/-!
# What a formula means as a rule

`meaning` translates a formula into the tree of a rule, node by node, without writing any text: a
binary node becomes the same operation on the translations of its operands, a group is what is in
it, and a call becomes the call of the rule function, with the items of its ranges in its list.  It
depends on the table of operators in one place only, where `concat` joins more than two operands.
-/

namespace AdaptiveForm.Rule

open AdaptiveForm.Formula (Expr Cell BinaryOp UnaryOp)

/-! ### Formulas that rules can be written for -/

mutual

/-- All numbers are without exponents, no text has a backslash in it, and there is something to
join wherever texts are joined. -/
def isPlain : Expr → Bool
  | .number digits => isNumeral digits
  | .text content => content.toList.all (· != '\\')
  | .bool _ | .cell _ | .range _ _ | .name _ => true
  | .call function args =>
    (!(function == "concat" || function == "concatenate") || !args.isEmpty) && arePlain args
  | .unary _ operand => isPlain operand
  | .percent operand => isPlain operand
  | .binary _ left right => isPlain left && isPlain right
  | .group inner => isPlain inner

def arePlain : List Expr → Bool
  | [] => true
  | arg :: args => isPlain arg && arePlain args

end

/-! ### Translation -/

def PathsOnly (paths : RowPaths) : Prop :=
  ∀ row path, paths row = some path → isPath path = true

def Term.ofPath (path : String) : Term :=
  match Text.split '.' path with
  | [] => .context path
  | root :: names => names.foldl .member (.context root)

def operation : BinaryOp → Term → Term → Term
  | .add => .binary "+"
  | .sub => .binary "-"
  | .mul => .binary "*"
  | .div => .binary "/"
  | .pow => fun left right => .call "power" [left, right]
  | .concat => .binary "&"
  | .eq => .binary "=="
  | .ne => .binary "!="
  | .lt => .binary "<"
  | .le => .binary "<="
  | .gt => .binary ">"
  | .ge => .binary ">="

/-- The choice between two terms; the second one is `false` if it is left out. -/
def choice? : List Term → Option Term
  | [condition, yes] => some (.call "if" [condition, yes, .name "false"])
  | [condition, yes, no] => some (.call "if" [condition, yes, no])
  | _ => none

variable (T : Operators) (paths : RowPaths)

def joined? : List Term → Option Term
  | [] => none
  | first :: rest => some (joined T "&" first rest)

def rangeTerms (first last : Cell) : Option (List Term) :=
  let low := min first.row last.row
  let high := max first.row last.row
  (List.range' low (high + 1 - low)).mapM fun row => (paths row).map Term.ofPath

mutual

/-- The tree that a formula is as a rule. -/
def meaning : Expr → Option Term
  | .number digits => some (.number digits)
  | .text content => some (.text content)
  | .bool value => some (.name (if value then "true" else "false"))
  | .cell cell => (paths cell.row).map Term.ofPath
  | .range first last => (rangeTerms paths first last).map .list
  | .name _ => none
  | .group inner => meaning inner
  | .percent operand => do
    let term ← meaning operand
    return .binary "/" term (.number "100")
  | .unary .neg operand => do
    let term ← meaning operand
    return .neg term
  | .unary .plus operand => meaning operand
  | .binary op left right => do
    let leftTerm ← meaning left
    let rightTerm ← meaning right
    return operation op leftTerm rightTerm
  | .call function args =>
    match lowering? function with
    | none => none
    | some (.aggregate target) => do
      let terms ← itemMeanings args
      return .call target [.list terms]
    | some (.direct target) => do
      let terms ← meanings args
      return .call target terms
    | some .conditional => do
      let terms ← meanings args
      choice? terms
    | some .join => do
      let terms ← meanings args
      joined? T terms

def meanings : List Expr → Option (List Term)
  | [] => some []
  | arg :: args => do
    let term ← meaning arg
    let terms ← meanings args
    return term :: terms

/-- The trees of arguments, with those of its rows for every range. -/
def itemMeanings : List Expr → Option (List Term)
  | [] => some []
  | .range first last :: args => do
    let rows ← rangeTerms paths first last
    let terms ← itemMeanings args
    return rows ++ terms
  | arg :: args => do
    let term ← meaning arg
    let terms ← itemMeanings args
    return term :: terms

end

/-! ### Reading -/

/-- The text can be read as the term under a table of operators. -/
def Reads (text : String) (term : Term) : Prop :=
  ∃ ls, lexemes text.toList = some ls ∧ Derives (Groups T 0) ls (.rule term)

end AdaptiveForm.Rule
