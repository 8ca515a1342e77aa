import AdaptiveForm.Formula.Error
import AdaptiveForm.Text.Numeric
import AdaptiveForm.Text.Space

/-!
# From characters to tokens

The longest token is taken at every position that is not white space. A number is digits with an
optional fraction and an optional exponent, or a fraction alone; a text stands in single quotes and
writes a quote inside it twice; a name begins with a letter, `_` or `$` and goes on with letters,
digits, `_`, `$` and `.`. Comma and semicolon are the same mark.
-/

namespace AdaptiveForm.Formula

open AdaptiveForm.Text

def isNameStart (c : Char) : Bool :=
  isAlphabetic c || c == '_' || c == '$'

def isNamePart (c : Char) : Bool :=
  isAlphanumeric c || c == '_' || c == '$' || c == '.'

def digitWidth (cs : List Char) : Nat :=
  (cs.takeWhile Char.isDigit).length

/-- The width of a point and the digits after it, of which there may be none. -/
def fractionWidth : List Char → Nat
  | '.' :: cs => 1 + digitWidth cs
  | _ => 0

/-- The width of an optional sign and digits, 0 when there is no digit. -/
def signedDigitWidth : List Char → Nat
  | '+' :: cs => if digitWidth cs = 0 then 0 else 1 + digitWidth cs
  | '-' :: cs => if digitWidth cs = 0 then 0 else 1 + digitWidth cs
  | cs => digitWidth cs

/-- The width of an exponent: `e`, an optional sign and at least one digit. -/
def exponentWidth : List Char → Nat
  | 'e' :: cs => if signedDigitWidth cs = 0 then 0 else 1 + signedDigitWidth cs
  | _ => 0

def numberWidth (cs : List Char) : Nat :=
  let mantissa := digitWidth cs + fractionWidth (cs.drop (digitWidth cs))
  mantissa + exponentWidth (cs.drop mantissa)

/-- The content of a text and its width, read after the opening quote through the closing one. -/
def quotedText : List Char → Option (List Char × Nat)
  | [] => none
  | '\'' :: '\'' :: cs => (quotedText cs).map fun (content, width) => ('\'' :: content, width + 2)
  | c :: cs =>
    if c = '\'' then some ([], 1)
    else (quotedText cs).map fun (content, width) => (c :: content, width + 1)

/-- The mark that is the single character `c`, if it is one that no longer mark begins with. -/
def mark? : Char → Option Kind
  | '(' => some .leftParen
  | ')' => some .rightParen
  | ',' => some .comma
  | ';' => some .comma
  | ':' => some .colon
  | '+' => some .plus
  | '-' => some .minus
  | '*' => some .star
  | '/' => some .slash
  | '^' => some .caret
  | '&' => some .amp
  | '%' => some .percent
  | '=' => some .eq
  | _ => none

/-- The token that begins with `c` when `cs` follows, and how many characters of `cs` it takes. -/
def headToken (position : Nat) (c : Char) (cs : List Char) : Except Error (Kind × Nat) :=
  match mark? c with
  | some kind => .ok (kind, 0)
  | none =>
    match c, cs with
    | '<', '>' :: _ => .ok (.ne, 1)
    | '<', '=' :: _ => .ok (.le, 1)
    | '<', _ => .ok (.lt, 0)
    | '>', '=' :: _ => .ok (.ge, 1)
    | '>', _ => .ok (.gt, 0)
    | '\'', _ =>
      match quotedText cs with
      | some (content, width) => .ok (.text (String.ofList content), width)
      | none => .error (.malformed position .unterminatedText)
    | _, _ =>
      if c.isDigit || (c == '.' && 0 < digitWidth cs) then
        let width := numberWidth (c :: cs)
        .ok (.number (String.ofList ((c :: cs).take width)), width - 1)
      else if isNameStart c then
        let rest := cs.takeWhile isNamePart
        .ok (.ident (String.ofList (c :: rest)), rest.length)
      else .error (.unexpectedCharacter position c)

/-- The tokens of the characters `cs`, of which the first stands at `position`. -/
def tokensFrom (position : Nat) : List Char → Except Error (List Token)
  | [] => .ok []
  | c :: cs =>
    if isSpace c then tokensFrom (position + 1) cs
    else
      match headToken position c cs with
      | .error e => .error e
      | .ok (kind, width) =>
        match tokensFrom (position + 1 + width) (cs.drop width) with
        | .error e => .error e
        | .ok tokens => .ok (⟨position, kind⟩ :: tokens)
termination_by cs => cs.length
decreasing_by all_goals simp only [List.length_drop, List.length_cons]; omega

structure Scan where
  tokens : List Token
  size : Nat

def scan (formula : String) : Except Error Scan :=
  (tokensFrom 0 formula.toList).map fun tokens => ⟨tokens, formula.length⟩

end AdaptiveForm.Formula
