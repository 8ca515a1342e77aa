import AdaptiveForm.Field.Mapping

/-!
# Settings

What a form is built with besides the rows: the tables of names and types, where a form is submitted
to, and the message for required fields that are left empty.
-/

namespace AdaptiveForm

structure Submission where
  successEvent : String
  failureEvent : String
  contentType : String
  tenant : String
  deriving DecidableEq, Repr

namespace Submission

def usual : Submission where
  successEvent := "submitSuccess"
  failureEvent := "submitFailure"
  contentType := "application/json"
  tenant := "main--afb--adobe.hlx.page"

def clickExpression (submission : Submission) : String :=
  "submitForm('" ++ submission.successEvent ++ "', '" ++ submission.failureEvent ++ "', '" ++
    submission.contentType ++ "', null, \x7b\"tenant\" : '" ++ submission.tenant ++ "'\x7d)"

end Submission

/-- Everything a form is built with besides its rows. -/
structure Settings where
  mappings : Mappings
  submission : Submission
  requiredMessage : String
  deriving DecidableEq, Repr

def Settings.usual : Settings where
  mappings := .usual
  submission := .usual
  requiredMessage := "Please fill in this field."

end AdaptiveForm
