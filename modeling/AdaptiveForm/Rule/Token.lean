import AdaptiveForm.Text.Numeric
import AdaptiveForm.Text.Space

/-!
# Tokens of a rule

Rules are the expressions that a form evaluates. This module splits their text into tokens, as far
as a structural check needs them: contexts such as `$form`, names, texts in single quotes, literals
in back quotes, names in double quotes, numbers, brackets and operators.
-/

namespace AdaptiveForm.Rule

open AdaptiveForm.Text

/-- What a token of a rule is. A name in double quotes is an identifier whose name is not kept; all
operators but the minus sign and the exclamation mark count as one. -/
inductive Kind where
  | number
  | text
  | literal
  | ident (name : String)
  | context (name : String)
  | dot
  | comma
  | colon
  | leftParen
  | rightParen
  | leftBracket
  | rightBracket
  | leftBrace
  | rightBrace
  | not
  | minus
  | operator
  deriving DecidableEq, Repr

structure Token where
  position : Nat
  kind : Kind
  deriving DecidableEq, Repr

inductive ScanFault where
  | unexpectedCharacter (found : Char)
  | unterminatedText
  deriving DecidableEq, Repr

structure ScanError where
  position : Nat
  fault : ScanFault
  deriving DecidableEq, Repr

/-- The width of a quoted token after its opening quote through the closing one. A backslash takes
the character after it along, whatever it is. -/
def quotedWidth (quote : Char) : List Char → Option Nat
  | [] => none
  | '\\' :: _ :: cs => (quotedWidth quote cs).map (· + 2)
  | c :: cs => if c = quote then some 1 else (quotedWidth quote cs).map (· + 1)

def quotedKind : Char → Kind
  | '`' => .literal
  | '\'' => .text
  | _ => .ident ""

def isNumberPart (c : Char) : Bool :=
  c.isDigit || c == '.'

def isWordStart (c : Char) : Bool :=
  isAlphabetic c || c == '_' || c == '$'

def isWordPart (c : Char) : Bool :=
  isAlphanumeric c || c == '_'

/-- The token that is the single character `c`, unless a longer operator begins with it. -/
def mark? : Char → Option Kind
  | '.' => some .dot
  | ',' => some .comma
  | ':' => some .colon
  | '(' => some .leftParen
  | ')' => some .rightParen
  | '[' => some .leftBracket
  | ']' => some .rightBracket
  | '{' => some .leftBrace
  | '}' => some .rightBrace
  | '!' => some .not
  | '-' => some .minus
  | '+' => some .operator
  | '*' => some .operator
  | '/' => some .operator
  | '&' => some .operator
  | '<' => some .operator
  | '>' => some .operator
  | '%' => some .operator
  | _ => none

/-- Whether `c` and `next` together are an operator: `==`, `&&`, `||`, `!=`, `<=` or `>=`. -/
def isDoubleOperator (c next : Char) : Bool :=
  ((c == '=' || c == '&' || c == '|') && next == c) ||
    ((c == '!' || c == '<' || c == '>') && next == '=')

def isQuote (c : Char) : Bool :=
  c == '\'' || c == '`' || c == '"'

/-- The token that begins with `c` when `cs` follows, and how many characters of `cs` it takes. -/
def headToken (c : Char) (cs : List Char) : Except ScanFault (Kind × Nat) :=
  if isQuote c then
    match quotedWidth c cs with
    | some width => .ok (quotedKind c, width)
    | none => .error .unterminatedText
  else if c.isDigit then .ok (.number, (cs.takeWhile isNumberPart).length)
  else if isWordStart c then
    let rest := cs.takeWhile isWordPart
    let word := String.ofList (c :: rest)
    .ok (if c = '$' then .context word else .ident word, rest.length)
  else if cs.head?.any (isDoubleOperator c) then .ok (.operator, 1)
  else
    match mark? c with
    | some kind => .ok (kind, 0)
    | none => .error (.unexpectedCharacter c)

def tokensFrom (position : Nat) : List Char → Except ScanError (List Token)
  | [] => .ok []
  | c :: cs =>
    if isSpace c then tokensFrom (position + 1) cs
    else
      match headToken c cs with
      | .error fault => .error ⟨position, fault⟩
      | .ok (kind, width) =>
        match tokensFrom (position + 1 + width) (cs.drop width) with
        | .error e => .error e
        | .ok tokens => .ok (⟨position, kind⟩ :: tokens)
termination_by cs => cs.length
decreasing_by all_goals simp only [List.length_drop, List.length_cons]; omega

def scan (rule : String) : Except ScanError (List Token) :=
  tokensFrom 0 rule.toList

end AdaptiveForm.Rule
