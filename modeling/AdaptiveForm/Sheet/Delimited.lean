/-!
# Delimited text

A sheet as text is records of fields: a delimiter stands between fields, and a record ends at a line
feed or a carriage return; lines without any character are no records. A field whose first symbol is
a quote is quoted: delimiters and line ends belong to it, and a quote in it is written twice. What
follows its closing quote up to the next delimiter or line end belongs to the field as it stands. A
quote that is never closed takes the rest of the text.

The symbols may be characters or bytes.
-/

namespace AdaptiveForm.Delimited

structure Dialect (α : Type) where
  delimiter : α
  quote : α
  lineFeed : α
  carriageReturn : α

/-- A record: its fields, and where reading it began, as the number of symbols and of line feeds
read before. Empty lines before a record are read with it. -/
structure Record (α : Type) where
  fields : List (List α)
  start : Nat
  line : Nat
  deriving DecidableEq, Repr

inductive Mode where
  | recordStart
  | fieldStart
  | plain
  | quoted
  /-- A quote has been read between quotes: the closing one, or the first of two. -/
  | quote
  deriving DecidableEq, Repr

/-- The state of reading: the mode, the finished fields and the symbols of the current one, both the
last one first, where the record began, and how many symbols and line feeds have been read. -/
structure Reading (α : Type) where
  mode : Mode
  fields : List (List α)
  field : List α
  start : Nat
  line : Nat
  symbols : Nat
  lines : Nat

variable {α : Type} [DecidableEq α]

def Dialect.isEnd (dialect : Dialect α) (a : α) : Bool :=
  a = dialect.lineFeed || a = dialect.carriageReturn

def Reading.count (dialect : Dialect α) (reading : Reading α) (a : α) : Reading α :=
  { reading with
    symbols := reading.symbols + 1
    lines := if a = dialect.lineFeed then reading.lines + 1 else reading.lines }

def Reading.endField (reading : Reading α) : Reading α :=
  { reading with
    mode := .fieldStart
    fields := reading.field.reverse :: reading.fields
    field := [] }

def Reading.extend (reading : Reading α) (mode : Mode) (a : α) : Reading α :=
  { reading with mode := mode, field := a :: reading.field }

def Reading.record (reading : Reading α) : Record α :=
  ⟨(reading.field.reverse :: reading.fields).reverse, reading.start, reading.line⟩

def Reading.newRecord (reading : Reading α) : Reading α :=
  { mode := .recordStart, fields := [], field := []
    start := reading.symbols, line := reading.lines
    symbols := reading.symbols, lines := reading.lines }

/-- Reads a symbol outside of quotes that is not the first one of a field; `counted` is the state
with the symbol counted. The record that the symbol ends is returned with the new state. -/
def Reading.outside (dialect : Dialect α) (counted : Reading α) (a : α) :
    Option (Record α) × Reading α :=
  if a = dialect.delimiter then (none, counted.endField)
  else if dialect.isEnd a then (some counted.record, counted.newRecord)
  else (none, counted.extend .plain a)

def Reading.step (dialect : Dialect α) (reading : Reading α) (a : α) :
    Option (Record α) × Reading α :=
  let counted := reading.count dialect a
  match reading.mode with
  | .recordStart =>
    if dialect.isEnd a then (none, counted)
    else if a = dialect.quote then (none, { counted with mode := .quoted })
    else counted.outside dialect a
  | .fieldStart =>
    if a = dialect.quote then (none, { counted with mode := .quoted })
    else counted.outside dialect a
  | .plain => counted.outside dialect a
  | .quoted =>
    if a = dialect.quote then (none, { counted with mode := .quote })
    else (none, counted.extend .quoted a)
  | .quote =>
    if a = dialect.quote then (none, counted.extend .quoted a)
    else counted.outside dialect a

/-- The record that the end of the text ends: none if no symbol of it has been read. -/
def Reading.last (reading : Reading α) : List (Record α) :=
  if reading.mode = .recordStart then [] else [reading.record]

def Reading.run (dialect : Dialect α) : Reading α → List α → List (Record α)
  | reading, [] => reading.last
  | reading, a :: rest =>
    let (ended, next) := reading.step dialect a
    ended.toList ++ next.run dialect rest

/-- The records of a text in front of which `skipped` symbols have been passed over. -/
def records (dialect : Dialect α) (skipped : Nat) (text : List α) : List (Record α) :=
  Reading.run dialect
    { mode := .recordStart, fields := [], field := [], start := 0, line := 0
      symbols := skipped, lines := 0 } text

end AdaptiveForm.Delimited
