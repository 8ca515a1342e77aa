import AdaptiveForm.Formula.Expr
import AdaptiveForm.Formula.Scan

/-!
# From tokens to expressions

A formula is read in one pass with a stack of what is still open to the left: signs and operators
that wait for their right operand, parentheses and calls that wait to be closed. A complete operand
first takes the waiting signs; an operator then takes from the stack every waiting operator that
binds at least as tightly, so that equal operators group to the left, and a closing mark takes all
of them down to its own opening mark. A token that fits none of this is the first one with which no
formula can go on, and is reported as such.
-/

namespace AdaptiveForm.Formula

/-- Something that stands open to the left of the reading position. -/
inductive Opened where
  | sign (op : UnaryOp)
  | left (operand : Expr) (op : BinaryOp)
  | group
  /-- A function name with its opening parenthesis, and the arguments read so far. -/
  | call (function : String) (args : List Expr)

/-- What has just been read, and with it what may follow. -/
inductive Phase where
  | operand
  /-- A call has been opened: its first argument or its closing parenthesis has to follow. -/
  | argument
  /-- An identifier has been read, which may turn out to be a function or the start of a range. -/
  | ident (name : String)
  /-- A cell and a colon have been read: the last cell of the range has to follow. -/
  | rangeEnd (first : Cell)
  | complete (e : Expr)

/-- The state of reading: the phase, and what is open, the innermost first. -/
structure Reading where
  phase : Phase
  opened : List Opened

def BinaryOp.ofKind? : Kind → Option BinaryOp
  | .plus => some .add
  | .minus => some .sub
  | .star => some .mul
  | .slash => some .div
  | .caret => some .pow
  | .amp => some .concat
  | .eq => some .eq
  | .ne => some .ne
  | .lt => some .lt
  | .le => some .le
  | .gt => some .gt
  | .ge => some .ge
  | _ => none

/-- Gives the operand `e` to the signs that wait for it and to the waiting operators of at least the
rank `rank`, and returns the expression made so with what remains open. -/
def settle (rank : Nat) : List Opened → Expr → Expr × List Opened
  | .sign op :: rest, e => settle rank rest (.unary op e)
  | .left l op :: rest, e =>
    if rank ≤ op.rank then settle rank rest (.binary op l e) else (e, .left l op :: rest)
  | opened, e => (e, opened)

/-- The fault of a token that may not follow a complete operand, by the innermost opening mark. -/
def notClosed (found : Option Kind) : List Opened → Fault
  | .group :: _ => .expectedClosing found
  | .call _ _ :: _ => .expectedCommaOrClosing found
  | _ => .unexpected found

def readOperand (opened : List Opened) : Kind → Except Fault Reading
  | .number digits => .ok ⟨.complete (.number digits), opened⟩
  | .text content => .ok ⟨.complete (.text content), opened⟩
  | .ident name => .ok ⟨.ident name, opened⟩
  | .leftParen => .ok ⟨.operand, .group :: opened⟩
  | .plus => .ok ⟨.operand, .sign .plus :: opened⟩
  | .minus => .ok ⟨.operand, .sign .neg :: opened⟩
  | kind => .error (.unexpected (some kind))

def readAfter (e : Expr) (opened : List Opened) (kind : Kind) : Except Fault Reading :=
  match kind with
  | .percent => .ok ⟨.complete (.percent e), opened⟩
  | _ =>
    match BinaryOp.ofKind? kind with
    | some op =>
      let (left, rest) := settle op.rank opened e
      .ok ⟨.operand, .left left op :: rest⟩
    | none =>
      let (inner, rest) := settle 0 opened e
      match kind, rest with
      | .rightParen, .group :: outer => .ok ⟨.complete (.group inner), outer⟩
      | .rightParen, .call f args :: outer => .ok ⟨.complete (.call f (args ++ [inner])), outer⟩
      | .comma, .call f args :: outer => .ok ⟨.operand, .call f (args ++ [inner]) :: outer⟩
      | _, _ => .error (notClosed (some kind) rest)

def Reading.step (reading : Reading) (kind : Kind) : Except Fault Reading :=
  match reading.phase with
  | .operand => readOperand reading.opened kind
  | .argument =>
    match kind, reading.opened with
    | .rightParen, .call f args :: outer => .ok ⟨.complete (.call f args), outer⟩
    | _, _ => readOperand reading.opened kind
  | .ident name =>
    match kind with
    | .leftParen => .ok ⟨.argument, .call name [] :: reading.opened⟩
    | .colon =>
      match Cell.ofName? name with
      | some first => .ok ⟨.rangeEnd first, reading.opened⟩
      | none => readAfter (Expr.ofName name) reading.opened kind
    | _ => readAfter (Expr.ofName name) reading.opened kind
  | .rangeEnd first =>
    match kind with
    | .ident name =>
      match Cell.ofName? name with
      | some last => .ok ⟨.complete (.range first last), reading.opened⟩
      | none => .error .expectedCell
    | _ => .error .expectedCell
  | .complete e => readAfter e reading.opened kind

/-- The expression that a complete operand makes at the end of the formula. -/
def finishAfter (e : Expr) (opened : List Opened) : Except Fault Expr :=
  match settle 0 opened e with
  | (whole, []) => .ok whole
  | (_, rest) => .error (notClosed none rest)

def Reading.finish (reading : Reading) : Except Fault Expr :=
  match reading.phase with
  | .operand | .argument => .error (.unexpected none)
  | .ident name => finishAfter (Expr.ofName name) reading.opened
  | .rangeEnd _ => .error .expectedCell
  | .complete e => finishAfter e reading.opened

/-- Reads the remaining tokens of a formula that ends at `size`. -/
def Reading.run (size : Nat) : Reading → List Token → Except Error Expr
  | reading, [] =>
    match reading.finish with
    | .ok e => .ok e
    | .error fault => .error (.malformed size fault)
  | reading, token :: tokens =>
    match reading.step token.kind with
    | .ok next => next.run size tokens
    | .error fault => .error (.malformed token.position fault)

def Reading.start : Reading := ⟨.operand, []⟩

def Expr.parse (formula : String) : Except Error Expr := do
  let scanned ← scan formula
  Reading.start.run scanned.size scanned.tokens

end AdaptiveForm.Formula
