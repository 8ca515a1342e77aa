import AdaptiveForm.Form.Settings

/-!
# Settings from the environment

Variables of the environment name the events and the tenant of a submission, and the number of the
socket at which the service listens. Variables that are not set, and a text that is no number of a
socket, leave the usual values.
-/

namespace AdaptiveForm

abbrev Environment := String → Option String

namespace Environment

def names : List String := [
  "SHEETFORM_PORT", "SHEETFORM_SUBMIT_SUCCESS", "SHEETFORM_SUBMIT_FAILURE", "SHEETFORM_TENANT"]

def submission (environment : Environment) : Submission where
  successEvent := (environment "SHEETFORM_SUBMIT_SUCCESS").getD Submission.usual.successEvent
  failureEvent := (environment "SHEETFORM_SUBMIT_FAILURE").getD Submission.usual.failureEvent
  contentType := Submission.usual.contentType
  tenant := (environment "SHEETFORM_TENANT").getD Submission.usual.tenant

def settings (environment : Environment) : Settings :=
  { Settings.usual with submission := environment.submission }

/-- The number that decimal digits write, if there are any and nothing else. -/
def numberOfDigits? (cs : List Char) : Option Nat :=
  if cs.isEmpty || !cs.all Char.isDigit then none
  else some (cs.foldl (fun n d => 10 * n + (d.toNat - '0'.toNat)) 0)

def socketLimit : Nat := 65536

/-- The number of a socket that a text writes; a plus sign may come before its digits. -/
def socketOf? (s : String) : Option Nat :=
  let digits := match s.toList with
    | '+' :: cs => cs
    | cs => cs
  (numberOfDigits? digits).filter (· < socketLimit)

/-- The socket of the service when the environment names none. -/
def usualSocket : Nat := 3000

def socket (environment : Environment) : Nat :=
  ((environment "SHEETFORM_PORT").bind socketOf?).getD usualSocket

end Environment

end AdaptiveForm
