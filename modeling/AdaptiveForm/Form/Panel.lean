import AdaptiveForm.Form.Tree

/-!
# Panels by name

A row names the panel it belongs to. Panels are registered under their names; a later panel of the
same name takes the place of an earlier one, and the name `root` stands for the form itself until a
panel takes it. A row whose parent is unknown goes where rows without a parent go.
-/

namespace AdaptiveForm

/-- The containers by name, the latest first. -/
structure Panels where
  entries : List (String × Container)

namespace Panels

/-- The name of the form itself. -/
def rootName : String := "root"

def initial : Panels := ⟨[(rootName, .root)]⟩

def register (panels : Panels) (name : String) (id : Nat) : Panels :=
  ⟨(name, .panel id) :: panels.entries⟩

def get? (panels : Panels) (name : String) : Option Container :=
  panels.entries.lookup name

def contains (panels : Panels) (name : String) : Bool :=
  (panels.get? name).isSome

/-- The container for a parent's name: that of the name if it is known, otherwise that of the name
of the form itself. -/
def resolve (panels : Panels) (parent : Option String) : Container :=
  match panels.get? (parent.getD rootName) with
  | some container => container
  | none => (panels.get? rootName).getD .root

structure Attached where
  tree : Tree
  id : Nat
  /-- The name of a parent that is not known. -/
  unknownParent : Option String

/-- Takes the `parent` off a field and adds the field to the container of that name. -/
def attach (panels : Panels) (tree : Tree) (field : Field) : Attached :=
  let parent := (field.get? "parent").bind Json.key?
  { tree := tree.push (panels.resolve parent) (field.erase "parent")
    id := tree.size
    unknownParent := parent.filter fun name => !panels.contains name }

end Panels

end AdaptiveForm
