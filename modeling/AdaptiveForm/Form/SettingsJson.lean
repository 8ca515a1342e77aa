import AdaptiveForm.Form.Settings
import AdaptiveForm.Json.Decode

/-!
# Settings as JSON

Settings may leave out any of their parts; a part that is given has to be whole.
-/

namespace AdaptiveForm

open Json

def Rename.recordType : RecordType where
  name := "NameMapping"
  fields := [.of "from" decodeText, .of "to" decodeText]

def Rename.ofJson (value : Json) : Decoded Rename := do
  let entries ← decodeRecord Rename.recordType value
  return ⟨← fieldOr entries "from" decodeText "", ← fieldOr entries "to" decodeText ""⟩

def Mappings.recordType : RecordType where
  name := "FieldMappings"
  fields := [.of "names" (decodeList Rename.ofJson), .of "types" decodeTexts]

def Mappings.ofJson (value : Json) : Decoded Mappings := do
  let entries ← decodeRecord Mappings.recordType value
  let names ← fieldOr entries "names" (decodeList Rename.ofJson) []
  let types ← fieldOr entries "types" decodeTexts []
  return ⟨names, types⟩

def Submission.recordType : RecordType where
  name := "SubmitConfig"
  fields := [
    .of "successEvent" decodeText,
    .of "failureEvent" decodeText,
    .of "contentType" decodeText,
    .of "tenant" decodeText]

def Submission.ofJson (value : Json) : Decoded Submission := do
  let entries ← decodeRecord Submission.recordType value
  let successEvent ← fieldOr entries "successEvent" decodeText ""
  let failureEvent ← fieldOr entries "failureEvent" decodeText ""
  let contentType ← fieldOr entries "contentType" decodeText ""
  let tenant ← fieldOr entries "tenant" decodeText ""
  return ⟨successEvent, failureEvent, contentType, tenant⟩

def Submission.toJson (submission : Submission) : Json :=
  .object [
    ("successEvent", .string submission.successEvent),
    ("failureEvent", .string submission.failureEvent),
    ("contentType", .string submission.contentType),
    ("tenant", .string submission.tenant)]

def Settings.recordType : RecordType where
  name := "TransformConfig"
  fields := [
    (RecordField.of "mappings" Mappings.ofJson).optional true,
    (RecordField.of "submit" Submission.ofJson).optional true,
    (RecordField.of "requiredMessage" decodeText).optional true]

def Settings.ofJson (value : Json) : Decoded Settings := do
  let entries ← decodeRecord Settings.recordType value
  let mappings ← fieldOr entries "mappings" Mappings.ofJson Settings.usual.mappings
  let submission ← fieldOr entries "submit" Submission.ofJson Settings.usual.submission
  let requiredMessage ← fieldOr entries "requiredMessage" decodeText Settings.usual.requiredMessage
  return ⟨mappings, submission, requiredMessage⟩

end AdaptiveForm
