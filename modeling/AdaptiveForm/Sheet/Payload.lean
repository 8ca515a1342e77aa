import AdaptiveForm.Json.Reader
import AdaptiveForm.Log
import AdaptiveForm.Sheet.Location
import AdaptiveForm.Sheet.Table

/-!
# Payloads

A payload is read from bytes: those of a table become an object with the rows under `data`, all
others are a JSON document.
-/

namespace AdaptiveForm

structure Loaded where
  location : String
  payload : Json
  info : Option TableInfo

inductive SourceError where
  | unreadable (reason : String)
  | unreachable (reason : String)
  | json (message : String)
  | table (e : TableError)
  deriving DecidableEq, Repr

def SourceError.message : SourceError → String
  | .unreadable reason => "Failed to read source: " ++ reason
  | .unreachable reason => "HTTP request failed: " ++ reason
  | .json message => "Invalid JSON payload: " ++ message
  | .table e => "CSV error: " ++ e.message

def rowsPayload (rows : List Json) : Json :=
  .object [
    ("total", .ofNat rows.length),
    ("offset", .ofNat 0),
    ("limit", .ofNat rows.length),
    ("data", .array rows)]

def TableInfo.report (info : TableInfo) : Log.Entry :=
  Log.success
    ("Read " ++ toString info.rowCount ++ " CSV rows (encoding " ++ info.encoding ++
      ", delimiter '" ++ Table.delimiterName info.delimiter ++ "')")

def Loaded.ofBytes (bytes : List UInt8) (location : String) : Run SourceError Loaded :=
  if Location.isTable location then
    match LoadedTable.ofBytes bytes none with
    | .error e => ⟨[], .error (.table e)⟩
    | .ok table => ⟨[table.info.report], .ok ⟨location, rowsPayload table.rows, some table.info⟩⟩
  else
    match Json.read bytes with
    | .error e => ⟨[], .error (.json (e.message bytes))⟩
    | .ok payload => ⟨[], .ok ⟨location, payload, none⟩⟩

end AdaptiveForm
