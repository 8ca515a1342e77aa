import AdaptiveForm.Formula.Reader
import AdaptiveForm.Rule.Check
import AdaptiveForm.Text.LetterCase

/-!
# From formulas to rules

A formula is compiled into the text of a rule. Cells become the paths of what their rows built, and
an operand that is itself made by a binary operator is put into parentheses, so that the rule groups
as the formula does, however tightly the operators of the rule language bind.
-/

namespace AdaptiveForm.Rule

open AdaptiveForm.Formula (Expr Cell BinaryOp UnaryOp)

/-- The rule path of what a row of the sheet built, if it built anything a rule can name. -/
abbrev RowPaths := Nat → Option String

inductive CompileError where
  | unreadable (e : Formula.Error)
  | unknownReference (reference : String)
  | unsupportedFunction (name : String)
  /-- `if` has fewer than two or more than three arguments. -/
  | conditionalArity (count : Nat)
  | refused (e : Error)
  deriving DecidableEq, Repr

def CompileError.message : CompileError → String
  | .unreadable e => e.message
  | .unknownReference reference => "Unknown reference: " ++ reference
  | .unsupportedFunction name => "Unsupported function: " ++ name
  | .conditionalArity count =>
    "Invalid rule expression: if expects 2 or 3 arguments, got " ++ toString count
  | .refused e => "Invalid rule expression: " ++ e.message

/-- The symbol that a binary operator has in rules; a power is written as a call. -/
def symbol? : BinaryOp → Option String
  | .add => some "+"
  | .sub => some "-"
  | .mul => some "*"
  | .div => some "/"
  | .concat => some "&"
  | .eq => some "=="
  | .ne => some "!="
  | .lt => some "<"
  | .le => some "<="
  | .gt => some ">"
  | .ge => some ">="
  | .pow => none

/-- The characters of a text inside single quotes: a quote takes a backslash before it. -/
def escapeQuotes : List Char → List Char
  | [] => []
  | c :: cs => if c = '\'' then '\\' :: '\'' :: escapeQuotes cs else c :: escapeQuotes cs

def quoteText (content : String) : String :=
  "'" ++ String.ofList (escapeQuotes content.toList) ++ "'"

def commaList (items : List String) : String :=
  String.intercalate ", " items

/-- The paths of `count` rows from `row` on. The first row that built nothing is reported as a cell
of the given column. -/
def pathsFrom (paths : RowPaths) (column : String) : Nat → Nat → Except CompileError (List String)
  | _, 0 => .ok []
  | row, count + 1 =>
    match paths row with
    | none => .error (.unknownReference (Cell.text ⟨column, row⟩))
    | some path => (pathsFrom paths column (row + 1) count).map (path :: ·)

/-- The paths of the rows of a range in ascending order, whichever end is written first. -/
def rangePaths (paths : RowPaths) (first last : Cell) : Except CompileError (List String) :=
  let low := min first.row last.row
  let high := max first.row last.row
  pathsFrom paths first.column low (high + 1 - low)

def cellPath (paths : RowPaths) (cell : Cell) : Except CompileError String :=
  match paths cell.row with
  | some path => .ok path
  | none => .error (.unknownReference cell.text)

/-- The text of an operand, in parentheses if a binary operator makes it. -/
def wrapOperand : Expr → String → String
  | .binary .., text => "(" ++ text ++ ")"
  | _, text => text

def binaryText (op : BinaryOp) (left right : String) : String :=
  match symbol? op with
  | some symbol => left ++ " " ++ symbol ++ " " ++ right
  | none => "power(" ++ left ++ ", " ++ right ++ ")"

/-- The text of a sign before an operand that is written already; a plus sign is dropped. -/
def unaryText : UnaryOp → String → String
  | .neg, operand => "-" ++ operand
  | .plus, operand => operand

def conditionalText (args : List String) : Except CompileError String :=
  match args with
  | [condition, yes] => .ok ("if(" ++ commaList [condition, yes, "false"] ++ ")")
  | [condition, yes, no] => .ok ("if(" ++ commaList [condition, yes, no] ++ ")")
  | _ => .error (.conditionalArity args.length)

mutual

/-- The rule text of an expression. -/
def exprText (paths : RowPaths) : Expr → Except CompileError String
  | .number digits => .ok digits
  | .text content => .ok (quoteText content)
  | .bool value => .ok (if value then "true" else "false")
  | .cell cell => cellPath paths cell
  | .range first last => do
    let rows ← rangePaths paths first last
    return "[" ++ commaList rows ++ "]"
  | .name name => .error (.unknownReference name)
  | .group inner => do
    let text ← exprText paths inner
    return "(" ++ text ++ ")"
  | .percent operand => do
    let text ← exprText paths operand
    return "(" ++ wrapOperand operand text ++ " / 100)"
  | .unary op operand => do
    let text ← exprText paths operand
    return unaryText op (wrapOperand operand text)
  | .binary op left right => do
    let leftText ← exprText paths left
    let rightText ← exprText paths right
    return binaryText op (wrapOperand left leftText) (wrapOperand right rightText)
  | .call function args =>
    match lowering? function with
    | none => .error (.unsupportedFunction function)
    | some (.aggregate target) => do
      let items ← itemTexts paths args
      return target ++ "([" ++ commaList items ++ "])"
    | some (.direct target) => do
      let texts ← argTexts paths args
      return target ++ "(" ++ commaList texts ++ ")"
    | some .conditional => do
      let texts ← argTexts paths args
      conditionalText texts
    | some .join => do
      let texts ← operandTexts paths args
      return "(" ++ String.intercalate " & " texts ++ ")"

def argTexts (paths : RowPaths) : List Expr → Except CompileError (List String)
  | [] => .ok []
  | arg :: args => do
    let text ← exprText paths arg
    let texts ← argTexts paths args
    return text :: texts

def operandTexts (paths : RowPaths) : List Expr → Except CompileError (List String)
  | [] => .ok []
  | arg :: args => do
    let text ← exprText paths arg
    let texts ← operandTexts paths args
    return wrapOperand arg text :: texts

/-- The items of an aggregate: the text of every argument, and of a range those of its cells. -/
def itemTexts (paths : RowPaths) : List Expr → Except CompileError (List String)
  | [] => .ok []
  | .range first last :: args => do
    let rows ← rangePaths paths first last
    let texts ← itemTexts paths args
    return rows ++ texts
  | arg :: args => do
    let text ← exprText paths arg
    let texts ← itemTexts paths args
    return text :: texts

end

def dropEquals : List Char → List Char
  | '=' :: cs => cs
  | cs => cs

def singleQuote (c : Char) : Char :=
  if c = '"' then '\'' else c

/-- Turns the text of a cell into a formula: without the leading `=`, with single quotes, in lower
case. -/
def normalizeFormula (cell : String) : String :=
  Text.lowerCase (String.ofList ((dropEquals cell.toList).map singleQuote))

def emit (paths : RowPaths) (formula : String) : Except CompileError String :=
  match Expr.parse formula with
  | .error e => .error (.unreadable e)
  | .ok e => exprText paths e

/-- The rule of a formula as a cell holds it. With `validate` the rule is checked before it is
given out. -/
def compile (paths : RowPaths) (validate : Bool) (cell : String) : Except CompileError String :=
  match emit paths (normalizeFormula cell) with
  | .error e => .error e
  | .ok rule =>
    if validate then
      match check rule with
      | .error e => .error (.refused e)
      | .ok () => .ok rule
    else .ok rule

end AdaptiveForm.Rule
