import AdaptiveForm.Json.Printer

/-!
# Schemas

A schema is a family of named shapes that refer to each other by name, so that a shape may occur
inside itself. A shape says of which types a value may be, and, for values of the type that each of
these speaks of: which keys an object must have, which form a text must have, what the values of its
keys and items must be like, and which keys it must not have all together. Everything about a value
that does not fit is reported, the outer before the inner.
-/

namespace AdaptiveForm.Schema

inductive Kind where
  | array
  | boolean
  | null
  | number
  | object
  | string
  deriving DecidableEq, Repr

def Kind.of : Json → Kind
  | .null => .null
  | .bool _ => .boolean
  | .number _ => .number
  | .string _ => .string
  | .array _ => .array
  | .object _ => .object

def Kind.name : Kind → String
  | .array => "array"
  | .boolean => "boolean"
  | .null => "null"
  | .number => "number"
  | .object => "object"
  | .string => "string"

structure Pattern where
  source : String
  holds : String → Bool

/-- A shape, whose parts are of the shapes named by `N`. -/
structure Shape (N : Type) where
  /-- The types that a value may have, by name; none stands for all. -/
  kinds : List Kind := []
  required : List String := []
  pattern : Option Pattern := none
  properties : List (String × N) := []
  additional : Option N := none
  items : Option N := none
  /-- The keys that an object must not have all together, if there are any. A value that is no
  object counts as having them. -/
  forbidden : List String := []

inductive Violation where
  | wrongKind (value : Json) (kinds : List Kind)
  | missing (key : String)
  | wrongForm (value : Json) (pattern : String)
  | forbidden (keys : List String) (value : Json)

def Violation.message : Violation → String
  | .wrongKind value [kind] => value.compact ++ " is not of type " ++ Json.quote kind.name
  | .wrongKind value kinds =>
    value.compact ++ " is not of types " ++
      String.intercalate ", " (kinds.map fun kind => Json.quote kind.name)
  | .missing key => Json.quote key ++ " is a required property"
  | .wrongForm value pattern => value.compact ++ " does not match \"" ++ pattern ++ "\""
  | .forbidden keys value =>
    Json.compact (.object [("required", .array (keys.map .string))]) ++ " is not allowed for " ++
      value.compact

/-- Whether a value has all the given keys; a value that is no object counts as having them. -/
def hasKeys (keys : List String) : Json → Bool
  | .object entries => keys.all (Entries.contains entries)
  | _ => true

variable {N : Type}

def kindViolations (shape : Shape N) (value : Json) : List Violation :=
  if shape.kinds.isEmpty || shape.kinds.contains (Kind.of value) then []
  else [.wrongKind value shape.kinds]

def requiredViolations (shape : Shape N) : Json → List Violation
  | .object entries =>
    (shape.required.filter fun key => !Entries.contains entries key).map .missing
  | _ => []

def patternViolations (shape : Shape N) : Json → List Violation
  | .string s =>
    match shape.pattern with
    | some pattern => if pattern.holds s then [] else [.wrongForm (.string s) pattern.source]
    | none => []
  | _ => []

def forbiddenViolations (shape : Shape N) (value : Json) : List Violation :=
  if shape.forbidden.isEmpty || !hasKeys shape.forbidden value then []
  else [.forbidden shape.forbidden value]

def ownViolations (shape : Shape N) (value : Json) : List Violation :=
  kindViolations shape value ++ requiredViolations shape value ++ patternViolations shape value

/-- What does not fit about the values of an object, given for every key as a function of the shape
that its value is to have: those of the named keys in the order of the shape, then all others. -/
def entryViolations (shape : Shape N) (checks : List (String × (N → List Violation))) :
    List Violation :=
  (shape.properties.flatMap fun property =>
    match checks.lookup property.1 with
    | some check => check property.2
    | none => []) ++
  (match shape.additional with
    | some other =>
      checks.flatMap fun entry =>
        if shape.properties.any (·.1 == entry.1) then [] else entry.2 other
    | none => [])

mutual

/-- Everything about a value that does not fit the named shape. -/
def violations (schema : N → Shape N) : Json → N → List Violation
  | .array items, name =>
    ownViolations (schema name) (.array items) ++
      (match (schema name).items with
        | some item => itemViolations schema items item
        | none => []) ++
      forbiddenViolations (schema name) (.array items)
  | .object entries, name =>
    ownViolations (schema name) (.object entries) ++
      entryViolations (schema name) (entryChecks schema entries) ++
      forbiddenViolations (schema name) (.object entries)
  | value, name =>
    ownViolations (schema name) value ++ forbiddenViolations (schema name) value

def itemViolations (schema : N → Shape N) : List Json → N → List Violation
  | [], _ => []
  | item :: items, name => violations schema item name ++ itemViolations schema items name

def entryChecks (schema : N → Shape N) :
    List (String × Json) → List (String × (N → List Violation))
  | [] => []
  | (key, value) :: entries => (key, violations schema value) :: entryChecks schema entries

end

end AdaptiveForm.Schema
