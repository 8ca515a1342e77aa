import AdaptiveForm.Field.Value

/-!
# Fields

A field of a form is an ordered list of attributes. Columns of a sheet are open-ended, so are the
attributes; only a few of them mean something here.
-/

namespace AdaptiveForm

/-- A field: its attributes in order. -/
abbrev Field := Entries

namespace Field

def name? (field : Field) : Option String :=
  (field.get? "name").bind Json.key?

def type? (field : Field) : Option String :=
  (field.get? "fieldType").bind Json.asString?

/-- The value rule of a field, or the formula it is to be compiled from. -/
def valueRule? (field : Field) : Option String :=
  ((field.get? "rules").bind (Json.get? · "value")).bind Json.asString?

/-- Whether a text is a formula: it begins with `=`. -/
def isFormula (rule : String) : Bool :=
  rule.toList.head? == some '='

def formula? (field : Field) : Option String :=
  field.valueRule?.filter isFormula

def hasFormula (field : Field) : Bool :=
  field.formula?.isSome

/-- Sets the value rule of a field that has rules. -/
def setValueRule (field : Field) (rule : String) : Field :=
  match field.get? "rules" with
  | some (.object rules) =>
    field.insert "rules" (.object (Entries.insert rules "value" (.string rule)))
  | _ => field

def stripBlanks (row : Entries) : Field :=
  row.filter fun entry => !entry.2.isBlank

end Field

end AdaptiveForm
