import AdaptiveForm.Json.Decode
import AdaptiveForm.Pipeline.Options

/-!
# Options as JSON

In an object every option may be left out. In an array the name of the source and the metadata have
to be there, be it as null.
-/

namespace AdaptiveForm

open Json

def Options.recordType : RecordType where
  name := "TransformOptions"
  fields := [
    (RecordField.of "sourceId" (decodeOptional decodeText)).optional false,
    (RecordField.of "metadata" (decodeOptional decodeEntries)).optional false,
    (RecordField.of "validateRules" decodeFlag).optional true,
    (RecordField.of "skipValidation" decodeFlag).optional true]

def Options.ofJson (value : Json) : Decoded Options := do
  let entries ← decodeRecord Options.recordType value
  let sourceId ← fieldOr entries "sourceId" (decodeOptional decodeText) none
  let metadata ← fieldOr entries "metadata" (decodeOptional decodeEntries) none
  let validateRules ← fieldOr entries "validateRules" decodeFlag false
  let skipValidation ← fieldOr entries "skipValidation" decodeFlag false
  return ⟨sourceId, metadata, validateRules, skipValidation⟩

def Options.toJson (options : Options) : Json :=
  .object [
    ("sourceId", (options.sourceId.map Json.string).getD .null),
    ("metadata", (options.metadata.map Json.object).getD .null),
    ("validateRules", .bool options.validateRules),
    ("skipValidation", .bool options.skipValidation)]

end AdaptiveForm
