import AdaptiveForm.Field.Basic

/-!
# The tree of fields

The fields of a form are numbered in the order in which they are added. Each of them is listed in
the container it was added to: with the field it lies in, or at the top level. A field lies in one
that was added before it, so the way up from a field ends.
-/

namespace AdaptiveForm

/-- Where a field is added. -/
inductive Container where
  | root
  /-- The field with the given number. -/
  | panel (id : Nat)
  deriving DecidableEq, Repr

/-- A field, the number of the field it lies in, if it lies in one, and the numbers of those that
lie in it. -/
structure Node where
  field : Field
  parent : Option Nat
  children : List Nat

def Node.addChild (id : Nat) (node : Node) : Node :=
  { node with children := node.children ++ [id] }

/-- The fields of a form, and the numbers of those at the top level. A field lies in one with a
smaller number. -/
structure Tree where
  nodes : Array Node
  rootItems : List Nat
  parent_lt : ∀ (i : Nat) (node : Node) (p : Nat),
    nodes[i]? = some node → node.parent = some p → p < i

namespace Tree

def empty : Tree where
  nodes := #[]
  rootItems := []
  parent_lt := by simp

def size (tree : Tree) : Nat :=
  tree.nodes.size

def field? (tree : Tree) (id : Nat) : Option Field :=
  tree.nodes[id]?.map Node.field

/-- The number of the field that a container is, unless it is the top level or there is no such
field yet. -/
def owner? (tree : Tree) : Container → Option Nat
  | .root => none
  | .panel id => if id < tree.size then some id else none

theorem owner?_lt {tree : Tree} {container : Container} {p : Nat}
    (h : tree.owner? container = some p) : p < tree.size := by
  cases container with
  | root => simp [owner?] at h
  | panel id =>
    simp only [owner?, Option.ite_none_right_eq_some, Option.some.injEq] at h
    omega

/-- Changes a node, if there is one with the number, but not the field it lies in. -/
def modify (tree : Tree) (id : Nat) (f : Node → Node) (hf : ∀ node, (f node).parent = node.parent) :
    Tree where
  nodes := tree.nodes.modify id f
  rootItems := tree.rootItems
  parent_lt := by
    intro i node p hi hp
    rw [Array.getElem?_modify] at hi
    split at hi
    · obtain ⟨old, hold, rfl⟩ := Option.map_eq_some_iff.mp hi
      exact tree.parent_lt i old p hold (hf old ▸ hp)
    · exact tree.parent_lt i node p hi hp

def append (tree : Tree) (node : Node) (h : ∀ p, node.parent = some p → p < tree.size) : Tree where
  nodes := tree.nodes.push node
  rootItems := tree.rootItems
  parent_lt := by
    intro i node' p hi hp
    rw [Array.getElem?_push] at hi
    split at hi
    · rename_i hsize
      cases hi
      rw [hsize]
      exact h p hp
    · exact tree.parent_lt i node' p hi hp

/-- Lists a number with the field of the given number, or at the top level. -/
def enlist (tree : Tree) (id : Nat) : Option Nat → Tree
  | none => { tree with rootItems := tree.rootItems ++ [id] }
  | some p => tree.modify p (Node.addChild id) fun _ => rfl

theorem size_enlist (tree : Tree) (id : Nat) (owner : Option Nat) :
    (tree.enlist id owner).size = tree.size := by
  cases owner with
  | none => rfl
  | some p => exact Array.size_modify

/-- Adds a field as the last one of a container. A container that does not exist is the top level.
The new field's number is the size of the tree before. -/
def push (tree : Tree) (container : Container) (field : Field) : Tree :=
  (tree.enlist tree.size (tree.owner? container)).append ⟨field, tree.owner? container, []⟩
    fun _ hp => by rw [size_enlist]; exact owner?_lt hp

def setField (tree : Tree) (id : Nat) (field : Field) : Tree :=
  tree.modify id (fun node => { node with field := field }) fun _ => rfl

/-- The numbers of the fields in a container, in the order in which they were added. -/
def children (tree : Tree) : Container → List Nat
  | .root => tree.rootItems
  | .panel id => (tree.nodes[id]?.map Node.children).getD []

/-- The way up from a field, which collects the names of its ancestors in front of those collected
before; an ancestor without a name is passed over. -/
def climb (tree : Tree) (names : List String) : Option Nat → List String
  | none => names
  | some id =>
    match _ : tree.nodes[id]? with
    | none => names
    | some node => tree.climb (node.field.name?.toList ++ names) node.parent
termination_by cursor => cursor.elim 0 (· + 1)
decreasing_by
  cases hp : node.parent with
  | none => exact Nat.succ_pos id
  | some p => exact Nat.succ_lt_succ (tree.parent_lt id node p ‹_› hp)

/-- The path of a field: the names of its ancestors from the outermost on, and its own. A field
without a name has no path. -/
def path (tree : Tree) (id : Nat) : List String :=
  match tree.nodes[id]? with
  | none => []
  | some node =>
    match node.field.name? with
    | none => []
    | some name => tree.climb [name] node.parent

/-- The field with others inside: they go to the end of its own `items`, if that is an array, and
otherwise become its `items`. -/
def withItems (field : Field) (items : List Json) : Field :=
  match field.get? "items" with
  | some (.array own) => field.insert "items" (.array (own ++ items))
  | _ => field.insert "items" (.array items)

/-! ### Assembling the form -/

/-- The nodes by number. A node is taken out when its field is assembled. -/
abbrev Slots := Array (Option Node)

def Slots.node? (slots : Slots) (id : Nat) : Option Node :=
  slots[id]?.join

def Slots.take (slots : Slots) (id : Nat) : Slots :=
  slots.setIfInBounds id none

def Slots.count (slots : Slots) : Nat :=
  slots.countP Option.isSome

theorem Slots.count_take_lt {slots : Slots} {id : Nat} {node : Node}
    (h : slots.node? id = some node) : (slots.take id).count < slots.count := by
  obtain ⟨hid, hnode⟩ := Array.getElem?_eq_some_iff.mp (Option.join_eq_some_iff.mp h)
  have hpos : 0 < slots.countP Option.isSome :=
    Array.countP_pos_iff.mpr ⟨_, Array.getElem_mem hid, by rw [hnode]; rfl⟩
  rw [count, count, take, Array.setIfInBounds, dif_pos hid, Array.countP_set hid, hnode]
  simp only [Option.isSome_some, Option.isSome_none, if_true, Bool.false_eq_true, if_false]
  omega

mutual

/-- Takes a node and assembles its field with those that lie in it, as far as they have not been
taken. -/
def assemble (slots : Slots) (id : Nat) :
    Option Json × { rest : Slots // rest.count ≤ slots.count } :=
  match h : slots.node? id with
  | none => (none, ⟨slots, Nat.le_refl _⟩)
  | some node =>
    have hlt := Slots.count_take_lt h
    let (values, rest) := assembleAll (slots.take id) node.children
    let field := if node.children.isEmpty then node.field else withItems node.field values
    (some (.object field), ⟨rest.1, Nat.le_trans rest.2 (Nat.le_of_lt hlt)⟩)
termination_by (slots.count, 0)
decreasing_by exact Prod.Lex.left _ _ hlt

def assembleAll (slots : Slots) (ids : List Nat) :
    List Json × { rest : Slots // rest.count ≤ slots.count } :=
  match ids with
  | [] => ([], ⟨slots, Nat.le_refl _⟩)
  | id :: ids =>
    let (value, rest) := assemble slots id
    let (values, rest') := assembleAll rest.1 ids
    (value.toList ++ values, ⟨rest'.1, Nat.le_trans rest'.2 rest.2⟩)
termination_by (slots.count, ids.length + 1)
decreasing_by
  · exact Prod.Lex.right _ (Nat.succ_pos _)
  · exact Prod.Lex.right' _ rest.2 (Nat.lt_succ_self _)

end

/-- The top-level fields of the form, with all others inside. -/
def items (tree : Tree) : List Json :=
  (assembleAll (tree.nodes.map some) tree.rootItems).1

end Tree

end AdaptiveForm
