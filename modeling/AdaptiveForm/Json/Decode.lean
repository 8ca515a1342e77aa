import AdaptiveForm.Json.Basic
import AdaptiveForm.Text.Quoted

/-!
# Reading records from values

Settings and options come as JSON. A record is read from an object by the names of its fields, keys
that it does not know being passed over, or from an array by their order. What is wrong is reported
for the first value that does not fit; a field that is missing is noticed when all values have been
seen.
-/

namespace AdaptiveForm.Json

inductive DecodeError where
  | wrongType (found : Json) (expected : String)
  | wrongLength (length : Nat) (expected : String)
  | missing (field : String)

/-- How a message names a value of an unexpected type. -/
def describe : Json → String
  | .null => "null"
  | .bool value => "boolean \x60" ++ (if value then "true" else "false") ++ "\x60"
  | .number (.integer value) => "integer \x60" ++ (Number.integer value).plainText ++ "\x60"
  | .number value => "floating point \x60" ++ value.plainText ++ "\x60"
  | .string s => "string " ++ Text.quoted s
  | .array _ => "sequence"
  | .object _ => "map"

def DecodeError.message : DecodeError → String
  | .wrongType found expected => "invalid type: " ++ describe found ++ ", expected " ++ expected
  | .wrongLength length expected =>
    "invalid length " ++ toString length ++ ", expected " ++ expected
  | .missing field => "missing field \x60" ++ field ++ "\x60"

abbrev Decoded (α : Type) := Except DecodeError α

def decodeText : Json → Decoded String
  | .string s => .ok s
  | value => .error (.wrongType value "a string")

def decodeFlag : Json → Decoded Bool
  | .bool value => .ok value
  | value => .error (.wrongType value "a boolean")

def decodeEntries : Json → Decoded Entries
  | .object entries => .ok entries
  | value => .error (.wrongType value "a map")

def decodeOptional {α : Type} (decode : Json → Decoded α) : Json → Decoded (Option α)
  | .null => .ok none
  | value => (decode value).map some

def decodeList {α : Type} (decode : Json → Decoded α) : Json → Decoded (List α)
  | .array items => items.mapM decode
  | value => .error (.wrongType value "a sequence")

def decodeTexts (value : Json) : Decoded (List (String × String)) := do
  let entries ← decodeEntries value
  entries.mapM fun entry => (decodeText entry.2).map fun text => (entry.1, text)

/-- A field of a record: its name, whether a value fits, and whether it may be missing in an object
and at the end of an array. -/
structure RecordField where
  name : String
  fits : Json → Decoded Unit
  mayBeAbsent : Bool := false
  mayBeCut : Bool := false

/-- The kind of record that a message names. -/
structure RecordType where
  name : String
  fields : List RecordField

/-- The first fault among values, each to be read as the field beside it. -/
def checkValues : List (RecordField × Json) → Decoded Unit
  | [] => .ok ()
  | (field, value) :: rest => do
    field.fits value
    checkValues rest

/-- The values of an object that a record knows, in the order of the object. -/
def knownValues (type : RecordType) (entries : Entries) : List (RecordField × Json) :=
  entries.filterMap fun entry =>
    (type.fields.find? fun field => field.name = entry.1).map fun field => (field, entry.2)

def RecordType.expectedItems (type : RecordType) : String :=
  "struct " ++ type.name ++ " with " ++ toString type.fields.length ++
    (if type.fields.length = 1 then " element" else " elements")

/-- Reads a record as the values of its fields by name. -/
def decodeRecord (type : RecordType) : Json → Decoded Entries
  | .object entries => do
    checkValues (knownValues type entries)
    let isMissing (field : RecordField) : Bool :=
      !field.mayBeAbsent && !Entries.contains entries field.name
    match type.fields.find? isMissing with
    | some field => .error (.missing field.name)
    | none => .ok entries
  | .array items => do
    checkValues (type.fields.zip items)
    let cut := type.fields.drop items.length
    match (cut.zipIdx items.length).find? fun field => !field.1.mayBeCut with
    | some field => .error (.wrongLength field.2 type.expectedItems)
    | none =>
      if type.fields.length < items.length then
        .error (.wrongLength items.length "fewer elements in array")
      else .ok ((type.fields.map RecordField.name).zip items)
  | value => .error (.wrongType value ("struct " ++ type.name))

/-- The value of a field of a record, or the given one if it is missing. -/
def fieldOr {α : Type} (entries : Entries) (name : String) (decode : Json → Decoded α)
    (default : α) : Decoded α :=
  match entries.get? name with
  | some value => decode value
  | none => .ok default

/-- A field that fits whenever its value can be read. -/
def RecordField.of {α : Type} (name : String) (decode : Json → Decoded α) : RecordField where
  name := name
  fits value := (decode value).map fun _ => ()

def RecordField.optional (field : RecordField) (mayBeCut : Bool) : RecordField :=
  { field with mayBeAbsent := true, mayBeCut := mayBeCut }

end AdaptiveForm.Json
