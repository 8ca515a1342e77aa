import AdaptiveForm.Field.Dotted
import AdaptiveForm.Form.Settings

/-!
# Finishing fields

A normalized row becomes a field of the form: submit buttons get their click event, types are put
into the words of a form, dotted keys expanded, option lists split or loaded from a reference,
`required` becomes a truth value, and a panel that names no type of its own loses its name.
-/

namespace AdaptiveForm.Field

def submitType : String := "submit"

def panelType : String := "panel"

def setEvent (field : Field) (event expression : String) : Field :=
  insertPath field ["events", event] (.string expression)

def applySubmit (submission : Submission) (field : Field) : Field :=
  if field.type? = some submitType then field.setEvent "click" submission.clickExpression else field

/-- The event that tells that the options of the named field have arrived. -/
def optionsLoaded (name : String) : String :=
  name ++ "enumRefLoaded"

/-- The part of a loaded payload that becomes an option list, if the field names one. -/
def projection? (field : Field) (key : String) : Option String :=
  match (field.get? key).map Json.plainText with
  | some path => if path.isEmpty then none else some (key ++ ": $event.payload." ++ path)
  | none => none

def projections (field : Field) : List String :=
  ["enum", "enumNames"].filterMap field.projection?

def requestExpression (url event : String) : String :=
  "request('" ++ url ++ "', 'GET', null, '" ++ event ++ "')"

def projectionExpression (parts : List String) : String :=
  "\x7b " ++ String.intercalate ", " parts ++ " \x7d"

/-- Lets a field with a reference load its options: a request when the field is initialized, and, if
the field names option lists, their projection when the answer is there. -/
def applyOptionsReference (field : Field) : Field :=
  match field.get? "enumRef" with
  | none => field
  | some reference =>
    let event := optionsLoaded (field.name?.getD "")
    let requesting := field.setEvent "initialize" (requestExpression reference.plainText event)
    match field.projections with
    | [] => requesting
    | parts => requesting.setEvent ("custom:" ++ event) (projectionExpression parts)

/-- Whether the sheet marks a field as required: by `x` or by the text `true`. -/
def isRequired (field : Field) : Bool :=
  match field.get? "required" with
  | some (.string mark) => mark == "x" || mark == "true"
  | _ => false

def coerceRequired (field : Field) : Field :=
  field.insert "required" (.bool field.isRequired)

/-- Takes the name from a panel that has no `type` of its own. -/
def clearPanelName (field : Field) : Field :=
  if field.type? = some panelType ∧ !field.contains "type" then field.insert "name" .null else field

/-- Finishes a normalized row. -/
def build (settings : Settings) (field : Field) : Field :=
  let typed := (field.applySubmit settings.submission).mapType settings.mappings
  let listed := (typed.expand.splitValues "enum").splitValues "enumNames"
  listed.applyOptionsReference.coerceRequired.clearPanelName

end AdaptiveForm.Field
