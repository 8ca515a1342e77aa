import AdaptiveForm.Field.Basic

/-!
# Properties of a form

A row of type `property` becomes no field. It names a property of the form with its default, and may
carry a fragment of the rule by which the form keeps its properties up to date. All fragments are
merged into one rule. Property rows are not expanded, so the column of the fragment keeps its dot.
-/

namespace AdaptiveForm

/-- The properties gathered so far: their defaults, and the fragments in row order. -/
structure Properties where
  defaults : Entries
  fragments : List String

namespace Properties

def rowType : String := "property"

def fragmentColumn : String := "rules.properties"

def empty : Properties := ⟨[], []⟩

def isProperty (row : Field) : Bool :=
  row.type? == some rowType

def nameOf (row : Field) : String :=
  row.name?.getD ""

/-- The rule fragment of a row, an object of one entry. -/
def fragment? (row : Field) : Option String :=
  (row.get? fragmentColumn).map fun value =>
    "\x7b" ++ nameOf row ++ ": " ++ value.plainText ++ "\x7d"

def record (properties : Properties) (row : Field) : Properties where
  defaults := properties.defaults.insert (nameOf row) ((row.get? "default").getD .null)
  fragments := properties.fragments ++ (fragment? row).toList

/-- The rule that merges all fragments, if there are any. -/
def merged? (properties : Properties) : Option String :=
  match properties.fragments with
  | [] => none
  | fragments => some ("merge(" ++ String.intercalate "," ("$properties" :: fragments) ++ ")")

def formRules (properties : Properties) : Entries :=
  match properties.merged? with
  | some rule => [("properties", .string rule)]
  | none => []

end Properties

end AdaptiveForm
