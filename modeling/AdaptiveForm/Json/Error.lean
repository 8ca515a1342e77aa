/-!
# Faults in JSON text

What is wrong with a text that is no JSON document, and where: a fault carries the number of bytes
up to and including the offending one, from which line and column are counted.
-/

namespace AdaptiveForm.Json

inductive Fault where
  | endInValue
  | endInList
  | endInObject
  | endInString
  | expectedColon
  | expectedListEnd
  | expectedObjectEnd
  | expectedIdent
  | expectedValue
  | invalidEscape
  | invalidNumber
  | numberOutOfRange
  | invalidCodePoint
  | controlCharacter
  | keyNotString
  | loneSurrogate
  | unfinishedSurrogate
  | trailingComma
  | trailingCharacters
  | tooDeep
  deriving DecidableEq, Repr

/-- A fault and the number of bytes up to and including the offending one. -/
structure Error where
  fault : Fault
  bytes : Nat
  deriving DecidableEq, Repr

def Fault.message : Fault → String
  | .endInValue => "EOF while parsing a value"
  | .endInList => "EOF while parsing a list"
  | .endInObject => "EOF while parsing an object"
  | .endInString => "EOF while parsing a string"
  | .expectedColon => "expected \x60:\x60"
  | .expectedListEnd => "expected \x60,\x60 or \x60]\x60"
  | .expectedObjectEnd => "expected \x60,\x60 or \x60\x7d\x60"
  | .expectedIdent => "expected ident"
  | .expectedValue => "expected value"
  | .invalidEscape => "invalid escape"
  | .invalidNumber => "invalid number"
  | .numberOutOfRange => "number out of range"
  | .invalidCodePoint => "invalid unicode code point"
  | .controlCharacter => "control character (\\u0000-\\u001F) found while parsing a string"
  | .keyNotString => "key must be a string"
  | .loneSurrogate => "lone leading surrogate in hex escape"
  | .unfinishedSurrogate => "unexpected end of hex escape"
  | .trailingComma => "trailing comma"
  | .trailingCharacters => "trailing characters"
  | .tooDeep => "recursion limit exceeded"

/-- A place in a text: the line from 1 on, and the number of bytes of that line. -/
structure Place where
  line : Nat
  column : Nat
  deriving DecidableEq, Repr

def Place.behind (bytes : List UInt8) : Place :=
  bytes.foldl
    (fun place b => if b = 10 then ⟨place.line + 1, 0⟩ else ⟨place.line, place.column + 1⟩)
    ⟨1, 0⟩

def Error.message (text : List UInt8) (e : Error) : String :=
  let place := Place.behind (text.take e.bytes)
  e.fault.message ++ " at line " ++ toString place.line ++ " column " ++ toString place.column

end AdaptiveForm.Json
