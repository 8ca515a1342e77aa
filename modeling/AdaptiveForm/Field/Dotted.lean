import AdaptiveForm.Field.Basic
import AdaptiveForm.Text.Space
import AdaptiveForm.Text.Split

/-!
# Dotted keys and lists of values

A column name with dots in it, such as `rules.value`, names a place inside nested objects. Expanding
a field moves the value of every such column to its place: objects on the way are kept and extended,
anything else on the way gives way to an object. A text with commas in it is split into its parts
where a list of values is meant.
-/

namespace AdaptiveForm.Field

def isDotted (key : String) : Bool :=
  key.toList.contains '.'

/-- The entries of an object, and none of anything else. -/
def entriesAt (target : Entries) (key : String) : Entries :=
  match target.get? key with
  | some (.object entries) => entries
  | _ => []

/-- Puts a value at a place inside nested objects. -/
def insertPath (target : Entries) : List String → Json → Entries
  | [], _ => target
  | [last], value => target.insert last value
  | head :: rest, value =>
    target.insert head (.object (insertPath (entriesAt target head) rest value))

def expandKey (field : Field) (key : String) : Field :=
  match field.get? key with
  | some value => insertPath (field.erase key) (Text.split '.' key) value
  | none => field

/-- Expands every dotted key, in the order in which they stand. -/
def expand (field : Field) : Field :=
  (field.keys.filter isDotted).foldl expandKey field

def valueParts (s : String) : List Json :=
  (Text.split ',' s).map fun part => .string (Text.trim part)

/-- Replaces a text by the list of its parts; any other value stays. -/
def splitValues (field : Field) (key : String) : Field :=
  match field.get? key with
  | some (.string s) => field.insert key (.array (valueParts s))
  | _ => field

end AdaptiveForm.Field
