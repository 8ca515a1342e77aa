import AdaptiveForm.Json.Basic
import AdaptiveForm.Text.Split

/-!
# The form definition

The document that describes a form: its version marker, the metadata, properties, rules, the
top-level fields, and the action. Metadata given with a sheet goes over the usual metadata. The
action is the one of the metadata, or else the name of the source up to its first `.json`.
-/

namespace AdaptiveForm

structure Definition where
  metadata : Entries
  properties : Entries
  rules : Entries
  items : List Json
  action : Option String

namespace Definition

/-- The key that marks a document as a form definition. -/
def marker : String := "adaptiveform"

def version : String := "0.10.0"

def usualMetadata : Entries := [
  ("grammar", .string "json-formula-1.0.0"),
  ("version", .string "1.0.0")]

/-- The part of a list of characters before the first occurrence of another one. -/
def beforeFirst (pattern : List Char) : List Char → List Char
  | [] => []
  | c :: cs => if pattern.isPrefixOf (c :: cs) then [] else c :: beforeFirst pattern cs

/-- The action that the name of a source suggests. -/
def sourceAction (sourceId : String) : String :=
  String.ofList (beforeFirst ".json".toList sourceId.toList)

def metadataAction? (metadata : Entries) : Option String :=
  ((metadata.get? "action").bind Json.asString?).filter fun action => !action.isEmpty

def new (sourceId : Option String) (metadata : Option Entries) : Definition where
  metadata :=
    (metadata.getD []).foldl (fun merged entry => merged.insert entry.1 entry.2) usualMetadata
  properties := []
  rules := []
  items := []
  action := (metadata.bind metadataAction?).or (sourceId.map sourceAction)

def toJson (definition : Definition) : Json :=
  .object <| [
    (marker, .string version),
    ("metadata", .object definition.metadata),
    ("properties", .object definition.properties),
    ("rules", .object definition.rules),
    ("items", .array definition.items)] ++
    (definition.action.map fun action => ("action", Json.string action)).toList

end Definition

end AdaptiveForm
