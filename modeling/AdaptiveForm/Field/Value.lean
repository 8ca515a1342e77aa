import AdaptiveForm.Json.Printer

/-!
# Cell values

How the value of a cell counts: whether it is blank, whether it is a yes, under which key it is
looked up, and as which text it goes into an expression.
-/

namespace AdaptiveForm.Json

/-- Whether a cell counts as empty: null, an empty text, `false`, zero and an empty array do. -/
def isBlank : Json → Bool
  | .null => true
  | .string s => s.isEmpty
  | .bool value => !value
  | .number value => value.isZero
  | .array items => items.isEmpty
  | .object _ => false

/-- Whether a value counts as a yes: a text that is not empty, a number that is not zero, `true`,
and any array or object. -/
def isTruthy : Json → Bool
  | .null => false
  | .string s => !s.isEmpty
  | .bool value => value
  | .number value => !value.isZero
  | .array _ => true
  | .object _ => true

/-- The key under which a scalar is looked up: its text. Null, arrays and objects have none. -/
def key? : Json → Option String
  | .string s => some s
  | .number value => some value.text
  | .bool value => some (if value then "true" else "false")
  | _ => none

mutual

/-- The text of a value inside an expression: a string as it is, the items of an array separated by
commas, anything else as JSON. -/
def plainText : Json → String
  | .string s => s
  | .array items => String.intercalate "," (plainTexts items)
  | value => compact value

def plainTexts : List Json → List String
  | [] => []
  | item :: items => plainText item :: plainTexts items

end

end AdaptiveForm.Json
