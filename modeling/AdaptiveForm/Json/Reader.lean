import AdaptiveForm.Json.Lexeme

/-!
# From lexemes to values

A value is read in one pass over the lexemes with a stack of the containers that stand open. The
number of containers inside each other is limited.
-/

namespace AdaptiveForm.Json

/-- A container that stands open. -/
inductive Opened where
  /-- An array and its items, the last one first. -/
  | array (items : List Json)
  | object (entries : Entries)
  /-- An object and the key whose value comes next. -/
  | entry (entries : Entries) (key : String)

/-- What has just been read, and with it what may follow. -/
inductive Phase where
  | value
  /-- An array has been opened. -/
  | firstItem
  | nextItem
  /-- An object has been opened. -/
  | firstKey
  | nextKey
  | colon
  | itemEnd
  | entryEnd
  deriving DecidableEq, Repr

/-- What a lexeme leads to: more has to be read, or the whole value is there. -/
inductive Progress where
  | more (phase : Phase) (opened : List Opened)
  | done (value : Json)

/-- Gives a complete value to the container it stands in. -/
def place (value : Json) : List Opened → Progress
  | [] => .done value
  | .array items :: outer => .more .itemEnd (.array (value :: items) :: outer)
  | .entry entries key :: outer => .more .entryEnd (.object (entries.insert key value) :: outer)
  | .object entries :: outer => .more .entryEnd (.object entries :: outer)

/-- The value of the innermost container when it is closed, and what stands open around it. -/
def close : List Opened → Progress
  | .array items :: outer => place (.array items.reverse) outer
  | .object entries :: outer => place (.object entries) outer
  | .entry entries _ :: outer => place (.object entries) outer
  | [] => .done .null

def openContainer (limit start : Nat) (phase : Phase) (container : Opened) (opened : List Opened) :
    Except Error Progress :=
  if limit ≤ opened.length + 1 then .error ⟨.tooDeep, start + 1⟩
  else .ok (.more phase (container :: opened))

def readValueAt (limit : Nat) (opened : List Opened) (lexeme : Lexeme) : Except Error Progress :=
  match lexeme.kind with
  | .text (.ok s) => .ok (place (.string s) opened)
  | .text (.error e) => .error e
  | .scalar (.ok value) => .ok (place value opened)
  | .scalar (.error e) => .error e
  | .leftBracket => openContainer limit lexeme.start .firstItem (.array []) opened
  | .leftBrace => openContainer limit lexeme.start .firstKey (.object []) opened
  | _ => .error ⟨.expectedValue, lexeme.start + 1⟩

def readKeyAt (opened : List Opened) (lexeme : Lexeme) : Except Error Progress :=
  match lexeme.kind, opened with
  | .text (.ok key), .object entries :: outer => .ok (.more .colon (.entry entries key :: outer))
  | .text (.error e), _ => .error e
  | _, _ => .error ⟨.keyNotString, lexeme.start + 1⟩

def readLexeme (limit : Nat) (phase : Phase) (opened : List Opened) (lexeme : Lexeme) :
    Except Error Progress :=
  let offending (fault : Fault) : Except Error Progress := .error ⟨fault, lexeme.start + 1⟩
  match phase, lexeme.kind with
  | .value, _ => readValueAt limit opened lexeme
  | .firstItem, .rightBracket => .ok (close opened)
  | .firstItem, _ => readValueAt limit opened lexeme
  | .nextItem, .rightBracket => offending .trailingComma
  | .nextItem, _ => readValueAt limit opened lexeme
  | .firstKey, .rightBrace => .ok (close opened)
  | .firstKey, _ => readKeyAt opened lexeme
  | .nextKey, .rightBrace => offending .trailingComma
  | .nextKey, _ => readKeyAt opened lexeme
  | .colon, .colon => .ok (.more .value opened)
  | .colon, _ => offending .expectedColon
  | .itemEnd, .comma => .ok (.more .nextItem opened)
  | .itemEnd, .rightBracket => .ok (close opened)
  | .itemEnd, _ => offending .expectedListEnd
  | .entryEnd, .comma => .ok (.more .nextKey opened)
  | .entryEnd, .rightBrace => .ok (close opened)
  | .entryEnd, _ => offending .expectedObjectEnd

def Phase.endFault : Phase → Fault
  | .value | .nextItem | .nextKey => .endInValue
  | .firstItem | .itemEnd => .endInList
  | .firstKey | .colon | .entryEnd => .endInObject

/-- Reads on from a state until the value is complete, and returns it with the lexemes behind it.
`size` is the number of bytes of the text. -/
def readFrom (limit size : Nat) : Phase → List Opened → List Lexeme →
    Except Error (Json × List Lexeme)
  | phase, _, [] => .error ⟨phase.endFault, size⟩
  | phase, opened, lexeme :: rest =>
    match readLexeme limit phase opened lexeme with
    | .error e => .error e
    | .ok (.done value) => .ok (value, rest)
    | .ok (.more next inner) => readFrom limit size next inner rest

def readValue (limit size : Nat) (lexemes : List Lexeme) : Except Error (Json × List Lexeme) :=
  readFrom limit size .value [] lexemes

/-- Reads a text that is one value in which fewer than `limit` containers lie inside each other. -/
def readWithin (limit : Nat) (bytes : List UInt8) : Except Error Json :=
  match readValue limit bytes.length (lexemes bytes) with
  | .error e => .error e
  | .ok (value, []) => .ok value
  | .ok (_, lexeme :: _) => .error ⟨.trailingCharacters, lexeme.start + 1⟩

def depthLimit : Nat := 128

def read (bytes : List UInt8) : Except Error Json :=
  readWithin depthLimit bytes

end AdaptiveForm.Json
