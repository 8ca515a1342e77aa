import AdaptiveForm.Rule.Function
import AdaptiveForm.Rule.Token

/-!
# The structural check of rules

A rule is accepted when its tokens are operands joined by operators. An operand may have `!` and
`-` before it, and properties `.name` and indices `[…]` after it; it is a number, text, literal,
context or name, a call of a known function, a parenthesised rule, a list or an object. The check
reads the tokens in one pass with a stack of the brackets that stand open, so that the first token
with which no rule can go on is where a rule is refused.
-/

namespace AdaptiveForm.Rule

inductive Bracket where
  | group
  | call
  | list
  | index
  | object
  deriving DecidableEq, Repr

/-- What has just been read, and with it what may follow. -/
inductive Phase where
  | operand
  /-- A call or a list has been opened: its first item or its closing bracket has to follow. -/
  | item
  | property
  | firstKey
  | key
  | colon
  /-- An identifier has been read as an operand, which may turn out to be a function. -/
  | word (name : String)
  | complete
  deriving DecidableEq, Repr

/-- The state of a check: the phase, and the open brackets, the innermost first. -/
structure Checking where
  phase : Phase
  opened : List Bracket
  deriving DecidableEq, Repr

inductive Fault where
  | unknownFunction (name : String)
  | expectedOperand
  | expectedProperty
  | expectedKey
  | expectedColon
  | expectedParen
  | expectedBracket
  | expectedItemEnd
  | expectedEntryEnd
  | trailing
  deriving DecidableEq, Repr

/-- The refusal of a rule. A fault is shown at a position, except that of an unknown function. -/
inductive Error where
  | scan (e : ScanError)
  | empty
  | unknownFunction (name : String)
  | refused (position : Nat) (fault : Fault)
  deriving DecidableEq, Repr

def notClosed : List Bracket → Fault
  | [] => .trailing
  | .group :: _ => .expectedParen
  | .index :: _ => .expectedBracket
  | .object :: _ => .expectedEntryEnd
  | .call :: _ | .list :: _ => .expectedItemEnd

def readOperand (opened : List Bracket) : Kind → Except Fault Checking
  | .not | .minus => .ok ⟨.operand, opened⟩
  | .number | .text | .literal | .context _ => .ok ⟨.complete, opened⟩
  | .ident name => .ok ⟨.word name, opened⟩
  | .leftParen => .ok ⟨.operand, .group :: opened⟩
  | .leftBracket => .ok ⟨.item, .list :: opened⟩
  | .leftBrace => .ok ⟨.firstKey, .object :: opened⟩
  | _ => .error .expectedOperand

def readAfter (opened : List Bracket) (kind : Kind) : Except Fault Checking :=
  match kind, opened with
  | .operator, _ | .minus, _ => .ok ⟨.operand, opened⟩
  | .dot, _ => .ok ⟨.property, opened⟩
  | .leftBracket, _ => .ok ⟨.operand, .index :: opened⟩
  | .rightParen, .group :: outer | .rightParen, .call :: outer => .ok ⟨.complete, outer⟩
  | .rightBracket, .index :: outer | .rightBracket, .list :: outer => .ok ⟨.complete, outer⟩
  | .rightBrace, .object :: outer => .ok ⟨.complete, outer⟩
  | .comma, .call :: _ | .comma, .list :: _ => .ok ⟨.operand, opened⟩
  | .comma, .object :: _ => .ok ⟨.key, opened⟩
  | _, _ => .error (notClosed opened)

def readKey (opened : List Bracket) : Kind → Except Fault Checking
  | .ident _ | .text => .ok ⟨.colon, opened⟩
  | _ => .error .expectedKey

def Checking.step (checking : Checking) (kind : Kind) : Except Fault Checking :=
  let opened := checking.opened
  match checking.phase with
  | .operand => readOperand opened kind
  | .item =>
    match kind, opened with
    | .rightParen, .call :: outer | .rightBracket, .list :: outer => .ok ⟨.complete, outer⟩
    | _, _ => readOperand opened kind
  | .property =>
    match kind with
    | .ident _ => .ok ⟨.complete, opened⟩
    | _ => .error .expectedProperty
  | .firstKey =>
    match kind, opened with
    | .rightBrace, .object :: outer => .ok ⟨.complete, outer⟩
    | _, _ => readKey opened kind
  | .key => readKey opened kind
  | .colon =>
    match kind with
    | .colon => .ok ⟨.operand, opened⟩
    | _ => .error .expectedColon
  | .word name =>
    match kind with
    | .leftParen =>
      if isKnown name then .ok ⟨.item, .call :: opened⟩ else .error (.unknownFunction name)
    | _ => readAfter opened kind
  | .complete => readAfter opened kind

def Checking.finish (checking : Checking) : Except Fault Unit :=
  match checking.phase with
  | .operand | .item => .error .expectedOperand
  | .property => .error .expectedProperty
  | .firstKey | .key => .error .expectedKey
  | .colon => .error .expectedColon
  | .word _ | .complete =>
    match checking.opened with
    | [] => .ok ()
    | opened => .error (notClosed opened)

/-- The error for a fault at a token: a missing property name or key is shown at the token after the
one in its place, an unknown function at none, every other fault at the token itself. -/
def Fault.located (fault : Fault) (position next : Nat) : Error :=
  match fault with
  | .unknownFunction name => .unknownFunction name
  | .expectedProperty | .expectedKey => .refused next fault
  | _ => .refused position fault

def nextPosition (size : Nat) : List Token → Nat
  | [] => size
  | token :: _ => token.position

/-- Reads the remaining tokens of a rule that ends at `size`. Behind the end there is no token, and
a fault that would be shown there is shown at position 0. -/
def Checking.run (size : Nat) : Checking → List Token → Except Error Unit
  | checking, [] =>
    match checking.finish with
    | .ok () => .ok ()
    | .error fault => .error (fault.located size 0)
  | checking, token :: tokens =>
    match checking.step token.kind with
    | .ok next => next.run size tokens
    | .error fault => .error (fault.located token.position (nextPosition size tokens))

def Checking.start : Checking := ⟨.operand, []⟩

def check (rule : String) : Except Error Unit :=
  match scan rule with
  | .error e => .error (.scan e)
  | .ok [] => .error .empty
  | .ok tokens => Checking.start.run rule.length tokens

def Fault.message : Fault → String
  | .unknownFunction name => "unknown function '" ++ name ++ "'"
  | .expectedOperand => "expected an operand"
  | .expectedProperty => "expected a property name after '.'"
  | .expectedKey => "expected a key"
  | .expectedColon => "expected ':'"
  | .expectedParen => "expected ')'"
  | .expectedBracket => "expected ']'"
  | .expectedItemEnd => "expected ',' or closing bracket"
  | .expectedEntryEnd => "expected ',' or '\x7d'"
  | .trailing => "trailing input"

def atPosition (message : String) (position : Nat) : String :=
  message ++ " at position " ++ toString position

def Error.message : Error → String
  | .scan ⟨position, .unexpectedCharacter found⟩ =>
    atPosition ("unexpected character '" ++ found.toString ++ "'") position
  | .scan ⟨position, .unterminatedText⟩ => atPosition "unterminated string" position
  | .empty => "empty expression"
  | .unknownFunction name => (Fault.unknownFunction name).message
  | .refused position fault => atPosition fault.message position

end AdaptiveForm.Rule
