import AdaptiveForm.Byte.Encoding
import AdaptiveForm.Json.Basic
import AdaptiveForm.Sheet.Delimited
import AdaptiveForm.Text.Space

/-!
# Tables

A delimited text is a table: its first record names the columns, and every further one with a cell
that is not empty is a row, an object with one text for each named column. Headers and cells lose
the white space around them; missing cells are empty, and cells beyond the columns are left out.

A delimiter is one byte. A delimiter beyond ASCII splits the bytes of the text, which may leave
fields that are no text any more; the first such record ends the reading.
-/

namespace AdaptiveForm

inductive TableFault where
  | empty
  | unsupportedDelimiter (delimiter : Char)
  | noHeaders
  | duplicateColumn (name : String)
  /-- A record has a field that is no text: the number of the record, the symbols before it, the
  number of the field, and the number of good bytes of the field. -/
  | notText (isHeader : Bool) (record start field good : Nat)
  deriving DecidableEq, Repr

structure TableError where
  line : Nat
  fault : TableFault
  deriving DecidableEq, Repr

def notTextMessage (record line start field good : Nat) : String :=
  "CSV parse error: record " ++ toString record ++ " (line " ++ toString line ++ ", field: " ++
    toString field ++ ", byte: " ++ toString start ++ "): invalid utf-8: invalid UTF-8 in field " ++
    toString field ++ " near byte index " ++ toString good

def TableError.text (e : TableError) : String :=
  match e.fault with
  | .empty => "Empty CSV file"
  | .unsupportedDelimiter delimiter => "Unsupported delimiter '" ++ delimiter.toString ++ "'"
  | .noHeaders => "No headers found"
  | .duplicateColumn _ => "Duplicate column"
  | .notText true record start field good =>
    "Cannot read header: " ++ notTextMessage record e.line start field good
  | .notText false record start field good => notTextMessage record e.line start field good

def TableError.column? (e : TableError) : Option String :=
  match e.fault with
  | .duplicateColumn name => some name
  | _ => none

def TableError.message (e : TableError) : String :=
  "Line " ++ toString e.line ++
    (match e.column? with
      | some column => ", column '" ++ column ++ "': "
      | none => ": ") ++ e.text

structure Table where
  headers : List String
  rows : List Json

namespace Table

def charDialect (delimiter : Char) : Delimited.Dialect Char where
  delimiter := delimiter
  quote := '"'
  lineFeed := '\n'
  carriageReturn := '\r'

def byteDialect (delimiter : UInt8) : Delimited.Dialect UInt8 where
  delimiter := delimiter
  quote := 34
  lineFeed := 10
  carriageReturn := 13

def isAsciiSpace (b : UInt8) : Bool :=
  b == 32 || b == 9 || b == 10 || b == 12 || b == 13

def trimBytes (bytes : List UInt8) : List UInt8 :=
  ((bytes.dropWhile isAsciiSpace).reverse.dropWhile isAsciiSpace).reverse

/-- The texts of the fields of a record, or the number of the first field that is no text and the
number of its good bytes. -/
def fieldTexts (number : Nat) : List (List UInt8) → Except (Nat × Nat) (List String)
  | [] => .ok []
  | field :: fields =>
    match Byte.decodeUtf8? field with
    | none => .error (number, Byte.validUtf8Width field)
    | some cs => (fieldTexts (number + 1) fields).map (String.ofList cs :: ·)

/-- The cells of a record of bytes. White space around a cell is no part of it, except that a header
is decoded before it is trimmed. -/
def byteCells (number : Nat) (record : Delimited.Record UInt8) : Except TableError (List String) :=
  let isHeader := number == 0
  let fields := if isHeader then record.fields else record.fields.map trimBytes
  match fieldTexts 0 fields with
  | .ok texts => .ok (texts.map Text.trim)
  | .error (field, good) =>
    .error ⟨record.line + 1, .notText isHeader number record.start field good⟩

def charCells (record : Delimited.Record Char) : List String :=
  record.fields.map fun field => Text.trim (String.ofList field)

def row (headers cells : List String) : Entries :=
  let padded := cells ++ List.replicate headers.length ""
  ((headers.zip padded).filter fun pair => !pair.1.isEmpty).foldl
    (fun entries pair => entries.insert pair.1 (.string pair.2)) []

def rowsOf (headers : List String) (records : List (List String)) : List Json :=
  (records.filter fun cells => cells.any fun cell => !cell.isEmpty).map fun cells =>
    .object (row headers cells)

def duplicate? (earlier : List String) : List String → Option String
  | [] => none
  | header :: headers =>
    if !header.isEmpty && earlier.contains header then some header
    else duplicate? (header :: earlier) headers

def checkHeaders (headers : List String) : Except TableError Unit :=
  if headers.all String.isEmpty then .error ⟨1, .noHeaders⟩
  else
    match duplicate? [] headers with
    | some name => .error ⟨1, .duplicateColumn name⟩
    | none => .ok ()

def ofCells : List (List String) → Except TableError Table
  | [] => .error ⟨1, .noHeaders⟩
  | headers :: records =>
    match checkHeaders headers with
    | .error e => .error e
    | .ok () => .ok ⟨headers, rowsOf headers records⟩

def allByteCells (number : Nat) : List (Delimited.Record UInt8) →
    Except TableError (List (List String))
  | [] => .ok []
  | record :: records =>
    match byteCells number record with
    | .error e => .error e
    | .ok cells => (allByteCells (number + 1) records).map (cells :: ·)

/-- The table of the records of bytes. A fault of the columns comes before one of the rows. -/
def ofByteRecords : List (Delimited.Record UInt8) → Except TableError Table
  | [] => .error ⟨1, .noHeaders⟩
  | header :: records =>
    match byteCells 0 header with
    | .error e => .error e
    | .ok headers =>
      match checkHeaders headers with
      | .error e => .error e
      | .ok () => (allByteCells 1 records).map fun cells => ⟨headers, rowsOf headers cells⟩

/-- The table of characters with an ASCII delimiter. A leading byte order mark is passed over. -/
def ofChars (delimiter : Char) (text : List Char) : Except TableError Table :=
  ofCells ((Delimited.records (charDialect delimiter) 0 (Byte.dropMark text)).map charCells)

/-- The table of bytes with a delimiter beyond ASCII. A leading byte order mark, three bytes, is
passed over. -/
def ofBytes (delimiter : UInt8) : List UInt8 → Except TableError Table
  | 0xEF :: 0xBB :: 0xBF :: bytes =>
    ofByteRecords (Delimited.records (byteDialect delimiter) 3 bytes)
  | bytes => ofByteRecords (Delimited.records (byteDialect delimiter) 0 bytes)

def parse (text : String) (delimiter : Char) : Except TableError Table :=
  if (Text.trim text).isEmpty then .error ⟨1, .empty⟩
  else if delimiter.toNat < 0x80 then ofChars delimiter text.toList
  else if delimiter.toNat ≤ 0xFF then ofBytes delimiter.toNat.toUInt8 (Byte.ofText text)
  else .error ⟨1, .unsupportedDelimiter delimiter⟩

def delimiters : List Char := [',', ';', '\t', '|']

/-- The candidate that occurs most often in a line; of two that occur equally often the earlier one,
and `best` if none occurs more often than it. -/
def mostFrequent (line : List Char) (best : Char) (count : Nat) : List Char → Char
  | [] => best
  | candidate :: candidates =>
    if count < line.count candidate then
      mostFrequent line candidate (line.count candidate) candidates
    else mostFrequent line best count candidates

/-- The delimiter that occurs most often in the first line of a text; a comma if none does. -/
def detectDelimiter (text : String) : Char :=
  mostFrequent (text.toList.takeWhile (· != '\n')) ',' 0 delimiters

def delimiterName : Char → String
  | ';' => ";"
  | ',' => ","
  | '\t' => "TAB"
  | '|' => "|"
  | _ => "?"

end Table

structure TableInfo where
  encoding : String
  delimiter : Char
  headers : List String
  rowCount : Nat
  deriving DecidableEq, Repr

structure LoadedTable where
  info : TableInfo
  rows : List Json

/-- Reads bytes as a table, in the encoding and, unless one is given, with the delimiter that they
suggest. -/
def LoadedTable.ofBytes (bytes : List UInt8) (delimiter : Option Char) :
    Except TableError LoadedTable :=
  let encoding := Byte.detectEncoding bytes
  let text := Byte.decode bytes encoding
  let delimiter := delimiter.getD (Table.detectDelimiter text)
  (Table.parse text delimiter).map fun table =>
    ⟨⟨encoding, delimiter, table.headers, table.rows.length⟩, table.rows⟩

end AdaptiveForm
