import AdaptiveForm.Field.Basic

/-!
# Column names and field types

Sheets name their columns and types in their own words. Two tables lead from these to the words of a
form: column names to attributes, in the order of the table, so that a later rename may take up an
earlier one; and field types to those of the renderer.
-/

namespace AdaptiveForm

/-- A column name and the attribute it means. -/
structure Rename where
  source : String
  target : String
  deriving DecidableEq, Repr

structure Mappings where
  names : List Rename
  types : List (String × String)
  deriving DecidableEq, Repr

namespace Mappings

def usualNames : List Rename := [
  ⟨"Default", "default"⟩,
  ⟨"MaxLength", "maxLength"⟩,
  ⟨"MinLength", "minLength"⟩,
  ⟨"Maximum", "maximum"⟩,
  ⟨"Minimum", "minimum"⟩,
  ⟨"Step", "step"⟩,
  ⟨"Pattern", "pattern"⟩,
  ⟨"Value", "value"⟩,
  ⟨"Placeholder", "placeholder"⟩,
  ⟨"Field", "name"⟩,
  ⟨"ReadOnly", "readOnly"⟩,
  ⟨"Description", "description"⟩,
  ⟨"Type", "fieldType"⟩,
  ⟨"Label", "label.value"⟩,
  ⟨"Mandatory", "required"⟩,
  ⟨"Options", "enum"⟩,
  ⟨"Parent", "parent"⟩]

def usualTypes : List (String × String) := [
  ("text-input", "text"),
  ("number-input", "number"),
  ("date-input", "datetime-local"),
  ("file-input", "file"),
  ("drop-down", "select"),
  ("radio-group", "radio-group"),
  ("checkbox-group", "checkbox-group"),
  ("plain-text", "plain-text"),
  ("checkbox", "checkbox"),
  ("multiline-input", "textarea"),
  ("panel", "panel"),
  ("submit", "button")]

def usual : Mappings := ⟨usualNames, usualTypes⟩

def empty : Mappings := ⟨[], []⟩

/-- Sets the target of the first rename of a column, or adds one at the end. -/
def setName (source target : String) : List Rename → List Rename
  | [] => [⟨source, target⟩]
  | rename :: rest =>
    if rename.source = source then ⟨source, target⟩ :: rest
    else rename :: setName source target rest

def setType (source target : String) : List (String × String) → List (String × String)
  | [] => [(source, target)]
  | (s, t) :: rest =>
    if s = source then (s, target) :: rest else (s, t) :: setType source target rest

def withName (mappings : Mappings) (source target : String) : Mappings :=
  { mappings with names := setName source target mappings.names }

def withType (mappings : Mappings) (source target : String) : Mappings :=
  { mappings with types := setType source target mappings.types }

def sortedTypes (mappings : Mappings) : List (String × String) :=
  mappings.types.mergeSort fun a b => !(b.1 < a.1)

def canonicalName? (mappings : Mappings) (column : String) : Option String :=
  (mappings.names.find? fun rename => rename.source = column).map Rename.target

def inputType? (mappings : Mappings) (type : String) : Option String :=
  mappings.types.lookup type

end Mappings

namespace Field

/-- Moves the value of a column to the attribute it means. A value that is not a yes stays under the
name of its column. -/
def rename (field : Field) (rename : Rename) : Field :=
  if rename.source = rename.target then field
  else
    match field.get? rename.source with
    | some value =>
      if value.isTruthy then (field.erase rename.source).insert rename.target value else field
    | none => field

/-- Renames the columns of a field, in the order of the table. -/
def normalizeNames (mappings : Mappings) (field : Field) : Field :=
  mappings.names.foldl Field.rename field

/-- Puts the type of a form in the place of the type of a field; types that the table does not have
stay. -/
def mapType (mappings : Mappings) (field : Field) : Field :=
  match field.type?.bind mappings.inputType? with
  | some type => field.insert "fieldType" (.string type)
  | none => field

end Field

end AdaptiveForm
