import AdaptiveForm.Schema.Basic
import AdaptiveForm.Text.Split

/-!
# The schema of form definitions

A form definition has a version marker and top-level fields. Fields may hold fields; a field keeps
no parent, since it lies in it.
-/

namespace AdaptiveForm.Schema

inductive Part where
  | form
  | version
  | metadata
  | object
  | text
  | flag
  | list
  | anything
  | expressions
  | fields
  | field
  | name
  | label
  deriving DecidableEq, Repr

def isNumeral (cs : List Char) : Bool :=
  !cs.isEmpty && cs.all Char.isDigit

/-- Whether a text is three numbers with points between them. -/
def isVersion (s : String) : Bool :=
  match Text.splitChars '.' s.toList with
  | [major, minor, patch] => isNumeral major && isNumeral minor && isNumeral patch
  | _ => false

def versionPattern : Pattern where
  source := "^[0-9]+\\.[0-9]+\\.[0-9]+$"
  holds := isVersion

def formSchema : Part → Shape Part
  | .form => {
    kinds := [.object]
    required := ["adaptiveform", "items"]
    properties := [
      ("adaptiveform", .version),
      ("metadata", .metadata),
      ("properties", .object),
      ("rules", .expressions),
      ("action", .text),
      ("items", .fields)] }
  | .version => { kinds := [.string], pattern := some versionPattern }
  | .metadata => {
    kinds := [.object]
    properties := [("grammar", .text), ("version", .text)] }
  | .object => { kinds := [.object] }
  | .text => { kinds := [.string] }
  | .flag => { kinds := [.boolean] }
  | .list => { kinds := [.array] }
  | .anything => {}
  | .expressions => { kinds := [.object], additional := some .text }
  | .fields => { kinds := [.array], items := some .field }
  | .field => {
    kinds := [.object]
    properties := [
      ("name", .name),
      ("fieldType", .text),
      ("type", .text),
      ("required", .flag),
      ("label", .label),
      ("enum", .list),
      ("enumNames", .list),
      ("events", .expressions),
      ("rules", .expressions),
      ("constraintMessages", .expressions),
      ("items", .fields)]
    forbidden := ["parent"] }
  | .name => { kinds := [.null, .number, .string] }
  | .label => {
    kinds := [.object, .string]
    properties := [("value", .text), ("visible", .anything)] }

def formViolations (document : Json) : List Violation :=
  violations formSchema document .form

def isForm (document : Json) : Bool :=
  (formViolations document).isEmpty

end AdaptiveForm.Schema
