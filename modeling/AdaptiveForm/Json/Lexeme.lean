import AdaptiveForm.Byte.Utf16
import AdaptiveForm.Json.Basic
import AdaptiveForm.Json.Numeral

/-!
# From bytes to lexemes

The bytes of a JSON text are split into brackets, commas, colons, strings, and the values that are
neither string nor container. A string or number that is faulty is a lexeme with its fault, since it
depends on its place whether that fault, or the presence of the lexeme, is what is wrong with the
text. Where the end of a faulty lexeme is known, reading goes on behind it.
-/

namespace AdaptiveForm.Json

open AdaptiveForm.Byte

inductive LexemeKind where
  | leftBracket
  | rightBracket
  | leftBrace
  | rightBrace
  | comma
  | colon
  | text (content : Except Error String)
  | scalar (value : Except Error Json)
  | other

/-- A lexeme and the number of bytes before it. -/
structure Lexeme where
  start : Nat
  kind : LexemeKind

def isBlankByte (b : UInt8) : Bool :=
  b == 32 || b == 10 || b == 9 || b == 13

def hexDigitValue? (b : UInt8) : Option Nat :=
  if 48 ≤ b ∧ b ≤ 57 then some (b.toNat - 48)
  else if 97 ≤ b ∧ b ≤ 102 then some (b.toNat - 87)
  else if 65 ≤ b ∧ b ≤ 70 then some (b.toNat - 55)
  else none

def hexUnit (start : Nat) (bytes : List UInt8) : Except Error Nat :=
  match bytes with
  | a :: b :: c :: d :: _ =>
    match hexDigitValue? a, hexDigitValue? b, hexDigitValue? c, hexDigitValue? d with
    | some w, some x, some y, some z => .ok (((w * 16 + x) * 16 + y) * 16 + z)
    | _, _, _, _ => .error ⟨.invalidEscape, start + 4⟩
  | _ => .error ⟨.endInString, start + bytes.length⟩

/-- The trailing half of a surrogate pair, which has to follow the leading half as an escape of its
own. -/
def trailingUnit (start : Nat) (bytes : List UInt8) : Except Error Nat :=
  match bytes with
  | [] => .error ⟨.endInString, start⟩
  | b :: rest =>
    if b ≠ 92 then .error ⟨.unfinishedSurrogate, start + 1⟩
    else match rest with
      | [] => .error ⟨.endInString, start + 1⟩
      | c :: digits =>
        if c ≠ 117 then .error ⟨.unfinishedSurrogate, start + 2⟩
        else match hexUnit (start + 2) digits with
          | .error e => .error e
          | .ok unit => if isTrailing unit then .ok unit else .error ⟨.loneSurrogate, start + 6⟩

/-- The character of an escape `\u`, read after these two characters, and its width. A lenient
reading looks at no more than the four digits. -/
def readHexEscape (lenient : Bool) (start : Nat) (bytes : List UInt8) : Except Error (Char × Nat) :=
  match hexUnit start bytes with
  | .error e => .error e
  | .ok unit =>
    if lenient then .ok (replacement, 4)
    else if isTrailing unit then .error ⟨.loneSurrogate, start + 4⟩
    else if isLeading unit then
      match trailingUnit (start + 4) (bytes.drop 4) with
      | .error e => .error e
      | .ok second => .ok (pairChar unit second, 10)
    else .ok (Char.ofNat unit, 4)

def simpleEscape? (b : UInt8) : Option Char :=
  match Char.ofNat b.toNat with
  | '"' => some '"'
  | '\\' => some '\\'
  | '/' => some '/'
  | 'b' => some '\x08'
  | 'f' => some '\x0c'
  | 'n' => some '\n'
  | 'r' => some '\r'
  | 't' => some '\t'
  | _ => none

def readEscape (lenient : Bool) (start : Nat) (bytes : List UInt8) : Except Error (Char × Nat) :=
  match bytes with
  | [] => .error ⟨.endInString, start⟩
  | b :: rest =>
    match simpleEscape? b with
    | some c => .ok (c, 1)
    | none =>
      if b = 117 then
        (readHexEscape lenient (start + 1) rest).map fun (c, width) => (c, width + 1)
      else .error ⟨.invalidEscape, start + 1⟩

/-- The content of a string, with escapes resolved, and its width, read after the opening quote
through the closing one. -/
def readContent (lenient : Bool) (start : Nat) : List UInt8 → Except Error (List UInt8 × Nat)
  | [] => .error ⟨.endInString, start⟩
  | b :: bytes =>
    if b = 34 then .ok ([], 1)
    else if b = 92 then
      match readEscape lenient (start + 1) bytes with
      | .error e => .error e
      | .ok (c, width) =>
        (readContent lenient (start + 1 + width) (bytes.drop width)).map fun (content, rest) =>
          (String.utf8EncodeChar c ++ content, rest + 1 + width)
    else if b < 32 then .error ⟨.controlCharacter, start + 1⟩
    else
      (readContent lenient (start + 1) bytes).map fun (content, rest) => (b :: content, rest + 1)
termination_by bytes => bytes.length
decreasing_by all_goals simp only [List.length_drop, List.length_cons]; omega

/-- The string lexeme that begins behind its opening quote, and its width if its end is known. A
content that is not UTF-8 is noticed at the closing quote. -/
def textLexeme (start : Nat) (bytes : List UInt8) : LexemeKind × Option Nat :=
  match readContent false start bytes with
  | .ok (content, width) =>
    match decodeUtf8? content with
    | some cs => (.text (.ok (String.ofList cs)), some width)
    | none => (.text (.error ⟨.invalidCodePoint, start + width - 1⟩), some width)
  | .error e =>
    match readContent true start bytes with
    | .ok (_, width) => (.text (.error e), some width)
    | .error _ => (.text (.error e), none)

def numberLexeme (start : Nat) (bytes : List UInt8) : LexemeKind × Option Nat :=
  match Numeral.read start bytes with
  | .error e => (.scalar (.error e), none)
  | .ok (numeral, width) => (.scalar ((numeral.value (start + width)).map .number), some width)

/-- Reads the rest of a word. The first byte that differs from it is offending. -/
def readWord (start : Nat) : List Char → List UInt8 → Except Error Unit
  | [], _ => .ok ()
  | _ :: _, [] => .error ⟨.endInValue, start⟩
  | c :: cs, b :: bytes =>
    if b.toNat = c.toNat then readWord (start + 1) cs bytes else .error ⟨.expectedIdent, start + 1⟩

def wordLexeme (start : Nat) (rest : String) (value : Json) (bytes : List UInt8) :
    LexemeKind × Option Nat :=
  match readWord start rest.toList bytes with
  | .ok () => (.scalar (.ok value), some rest.length)
  | .error e => (.scalar (.error e), none)

/-- The lexeme that begins with the byte `b` before `bytes`, and how many of these belong to it, if
its end is known. -/
def headLexeme (start : Nat) (b : UInt8) (bytes : List UInt8) : LexemeKind × Option Nat :=
  match Char.ofNat b.toNat with
  | '[' => (.leftBracket, some 0)
  | ']' => (.rightBracket, some 0)
  | '\x7b' => (.leftBrace, some 0)
  | '\x7d' => (.rightBrace, some 0)
  | ',' => (.comma, some 0)
  | ':' => (.colon, some 0)
  | '"' => textLexeme (start + 1) bytes
  | 'n' => wordLexeme (start + 1) "ull" .null bytes
  | 't' => wordLexeme (start + 1) "rue" (.bool true) bytes
  | 'f' => wordLexeme (start + 1) "alse" (.bool false) bytes
  | _ =>
    if b = 45 ∨ isDigitByte b then
      let (kind, width) := numberLexeme start (b :: bytes)
      (kind, width.map (· - 1))
    else (.other, none)

/-- The lexemes of `bytes`, which are preceded by `start` bytes. -/
def lexemesFrom (start : Nat) : List UInt8 → List Lexeme
  | [] => []
  | b :: bytes =>
    if isBlankByte b then lexemesFrom (start + 1) bytes
    else
      match headLexeme start b bytes with
      | (kind, none) => [⟨start, kind⟩]
      | (kind, some width) =>
        ⟨start, kind⟩ :: lexemesFrom (start + 1 + width) (bytes.drop width)
termination_by bytes => bytes.length
decreasing_by all_goals simp only [List.length_drop, List.length_cons]; omega

def lexemes (bytes : List UInt8) : List Lexeme :=
  lexemesFrom 0 bytes

end AdaptiveForm.Json
