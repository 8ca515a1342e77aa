import AdaptiveForm.Json.Number

/-!
# JSON values

Rows, forms and payloads are JSON values. The entries of an object keep the order in which they were
inserted: a key that is set again keeps its place, and a key that is removed lets the later ones
move up.
-/

namespace AdaptiveForm

inductive Json where
  | null
  | bool (value : Bool)
  | number (value : Json.Number)
  | string (value : String)
  | array (items : List Json)
  | object (entries : List (String × Json))
  deriving Inhabited, Repr

/-- The entries of an object, in insertion order. -/
abbrev Entries := List (String × Json)

namespace Entries

def get? (entries : Entries) (key : String) : Option Json :=
  entries.lookup key

def contains (entries : Entries) (key : String) : Bool :=
  entries.any (·.1 == key)

def keys (entries : Entries) : List String :=
  entries.map (·.1)

/-- Sets the value of a key: in its place if there is one, at the end otherwise. -/
def insert : Entries → String → Json → Entries
  | [], key, value => [(key, value)]
  | (k, v) :: rest, key, value =>
    if k = key then (k, value) :: rest else (k, v) :: insert rest key value

def erase (entries : Entries) (key : String) : Entries :=
  entries.filter fun entry => entry.1 != key

end Entries

namespace Json

def ofNat (n : Nat) : Json := .number (.integer n)

def asString? : Json → Option String
  | .string s => some s
  | _ => none

def asArray? : Json → Option (List Json)
  | .array items => some items
  | _ => none

def asObject? : Json → Option Entries
  | .object entries => some entries
  | _ => none

def get? (value : Json) (key : String) : Option Json :=
  match value with
  | .object entries => Entries.get? entries key
  | _ => none

end Json

end AdaptiveForm
