/-!
# Tokens of a formula

A spreadsheet formula is read as a list of tokens: numbers, texts in single quotes, names, and
marks. Every token keeps the offset of its first character, so that a fault can be shown in the
formula.
-/

namespace AdaptiveForm.Formula

/-- What a token is. A number keeps its digits as written, a text its content with the quotes
resolved, an identifier its name. -/
inductive Kind where
  | number (digits : String)
  | text (content : String)
  | ident (name : String)
  | leftParen
  | rightParen
  | comma
  | colon
  | plus
  | minus
  | star
  | slash
  | caret
  | amp
  | percent
  | eq
  | ne
  | lt
  | le
  | gt
  | ge
  deriving DecidableEq, Repr

/-- A token and the offset of its first character, counted in characters from 0. -/
structure Token where
  position : Nat
  kind : Kind
  deriving DecidableEq, Repr

def Kind.describe : Kind → String
  | .number digits => "number " ++ digits
  | .text content => "string '" ++ content ++ "'"
  | .ident name => "identifier " ++ name
  | .leftParen => "'('"
  | .rightParen => "')'"
  | .comma => "','"
  | .colon => "':'"
  | .plus => "'+'"
  | .minus => "'-'"
  | .star => "'*'"
  | .slash => "'/'"
  | .caret => "'^'"
  | .amp => "'&'"
  | .percent => "'%'"
  | .eq => "'='"
  | .ne => "'<>'"
  | .lt => "'<'"
  | .le => "'<='"
  | .gt => "'>'"
  | .ge => "'>='"

def describeFound : Option Kind → String
  | some kind => kind.describe
  | none => "end of formula"

end AdaptiveForm.Formula
