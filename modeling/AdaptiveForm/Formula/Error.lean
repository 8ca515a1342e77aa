import AdaptiveForm.Formula.Token

/-!
# Faults in the text of a formula

Either a character begins no token, or the tokens form no expression. In both cases the position is
that of the first character or token that cannot stand where it does.
-/

namespace AdaptiveForm.Formula

/-- Why the tokens of a formula form no expression. -/
inductive Fault where
  | unterminatedText
  /-- Something stands where an operand, or nothing more, was expected. -/
  | unexpected (found : Option Kind)
  | expectedClosing (found : Option Kind)
  | expectedCommaOrClosing (found : Option Kind)
  | expectedCell
  deriving DecidableEq, Repr

inductive Error where
  | unexpectedCharacter (position : Nat) (found : Char)
  | malformed (position : Nat) (fault : Fault)
  deriving DecidableEq, Repr

def Fault.message : Fault → String
  | .unterminatedText => "unterminated string"
  | .unexpected found => "unexpected " ++ describeFound found
  | .expectedClosing found => "expected ')', found " ++ describeFound found
  | .expectedCommaOrClosing found => "expected ',' or ')', found " ++ describeFound found
  | .expectedCell => "expected a cell after ':'"

def Error.message : Error → String
  | .unexpectedCharacter position found =>
    "Unexpected character '" ++ found.toString ++ "' at position " ++ toString position
  | .malformed position fault =>
    "Syntax error at position " ++ toString position ++ ": " ++ fault.message

end AdaptiveForm.Formula
