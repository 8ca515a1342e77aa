import AdaptiveForm.Form.Tree
import Mathlib.Data.List.Induction
import Mathlib.Tactic.SplitIfs

/-!
# Where fields are listed

A form is built by adding one field after the other.  `push` changes a tree in three places only:
the new node, the list of the container that it was added to, and the number of fields.  So after
any additions the lists of the containers are the numbers of the fields in ascending order, each in
the list of the container that the field was added to, and a container that did not exist by then
is the top level.
-/

namespace AdaptiveForm

structure Addition where
  container : Container
  field : Field

/-- The container whose fields have a number as their parent, or none. -/
def Container.ofOwner : Option Nat → Container
  | none => .root
  | some p => .panel p

/-- The field in which the `i`-th one of the additions puts its own, if it existed by then. -/
def ownerAt (additions : List Addition) (i : Nat) : Option Nat :=
  match additions[i]? with
  | some ⟨.panel p, _⟩ => if p < i then some p else none
  | _ => none

def homeAt (additions : List Addition) (i : Nat) : Container :=
  .ofOwner (ownerAt additions i)

theorem ownerAt_append_of_lt (additions : List Addition) (addition : Addition) {i : Nat}
    (h : i < additions.length) : ownerAt (additions ++ [addition]) i = ownerAt additions i := by
  rw [ownerAt, ownerAt, List.getElem?_append_left h]

namespace Tree

def build (additions : List Addition) : Tree :=
  additions.foldl (fun tree addition => tree.push addition.container addition.field) empty

theorem build_append (additions : List Addition) (addition : Addition) :
    build (additions ++ [addition]) =
      (build additions).push addition.container addition.field := by
  rw [build, List.foldl_append]
  rfl

def parent? (tree : Tree) (id : Nat) : Option Nat :=
  tree.nodes[id]?.bind Node.parent

/-! ### One addition -/

variable (tree : Tree) (container : Container) (field : Field)

theorem nodes_enlist (id : Nat) (owner : Option Nat) (i : Nat) :
    (tree.enlist id owner).nodes[i]? = tree.nodes[i]?.map fun node =>
      if owner = some i then node.addChild id else node := by
  cases owner with
  | none => simp [enlist]
  | some p =>
    show (tree.nodes.modify p (Node.addChild id))[i]? = _
    rw [Array.getElem?_modify]
    by_cases h : p = i
    · simp [h]
    · simp [h]

theorem nodes_push (i : Nat) : (tree.push container field).nodes[i]? =
    if i = tree.size then some ⟨field, tree.owner? container, []⟩
    else tree.nodes[i]?.map fun node =>
      if tree.owner? container = some i then node.addChild tree.size else node := by
  have hsize := tree.size_enlist tree.size (tree.owner? container)
  rw [size] at hsize
  rw [push, append, Array.getElem?_push, hsize, nodes_enlist]

theorem nodes_size : tree.nodes[tree.size]? = none :=
  Array.getElem?_eq_none (Nat.le_refl _)

theorem size_push : (tree.push container field).size = tree.size + 1 := by
  have hsize := tree.size_enlist tree.size (tree.owner? container)
  rw [size] at hsize
  rw [push, append, size, Array.size_push, hsize]

theorem field?_push (i : Nat) : (tree.push container field).field? i =
    if i = tree.size then some field else tree.field? i := by
  rw [field?, nodes_push]
  by_cases hi : i = tree.size
  · rw [if_pos hi, if_pos hi]
    rfl
  · rw [if_neg hi, if_neg hi, Option.map_map, field?]
    congr 1
    funext node
    simp only [Function.comp_apply]
    split_ifs <;> rfl

theorem parent?_push (i : Nat) : (tree.push container field).parent? i =
    if i = tree.size then tree.owner? container else tree.parent? i := by
  rw [parent?, nodes_push]
  by_cases hi : i = tree.size
  · rw [if_pos hi, if_pos hi]
    rfl
  · rw [if_neg hi, if_neg hi, Option.bind_map, parent?]
    congr 1
    funext node
    simp only [Function.comp_apply]
    split_ifs <;> rfl

theorem rootItems_enlist (id : Nat) (owner : Option Nat) : (tree.enlist id owner).rootItems =
    tree.rootItems ++ if owner = none then [id] else [] := by
  cases owner with
  | none => rfl
  | some p => exact (List.append_nil _).symm

/-- **A field is put at the end of one list**, and no other list changes. -/
theorem children_push (other : Container) : (tree.push container field).children other =
    tree.children other ++
      if other = .ofOwner (tree.owner? container) then [tree.size] else [] := by
  cases other with
  | root =>
    refine (tree.rootItems_enlist tree.size (tree.owner? container)).trans ?_
    cases tree.owner? container <;> rfl
  | panel id =>
    have howner : (.panel id : Container) = .ofOwner (tree.owner? container) ↔
        tree.owner? container = some id := by
      cases tree.owner? container <;> simp [Container.ofOwner, eq_comm]
    rw [children, nodes_push, children, if_congr howner rfl rfl]
    by_cases hid : id = tree.size
    · -- the list of the new field is empty, as it was before there was such a field
      have hne : tree.owner? container ≠ some id := fun h =>
        absurd (owner?_lt h) (hid ▸ Nat.lt_irrefl _)
      rw [if_pos hid, if_neg hne, hid, nodes_size]
      rfl
    · rw [if_neg hid, Option.map_map]
      by_cases hp : tree.owner? container = some id
      · have hlt := owner?_lt hp
        rw [size] at hlt
        simp [hp, Array.getElem?_eq_getElem hlt, Node.addChild]
      · simp [hp, Function.comp_def]

/-! ### All additions -/

/-- The tree holds the fields of the additions, with the numbers in which they were made. -/
structure Lists (additions : List Addition) (tree : Tree) : Prop where
  size : tree.size = additions.length
  fields : ∀ i, tree.field? i = additions[i]?.map Addition.field
  parents : ∀ i, tree.parent? i = ownerAt additions i
  /-- Each container lists its fields in ascending order. -/
  children : ∀ container, tree.children container =
    (List.range additions.length).filter fun i => homeAt additions i = container

theorem lists_empty : Lists [] empty where
  size := rfl
  fields _ := rfl
  parents _ := rfl
  children container := by
    cases container <;> rfl

variable {tree} {additions : List Addition}

theorem Lists.owner? (h : Lists additions tree) (addition : Addition) :
    tree.owner? addition.container = ownerAt (additions ++ [addition]) additions.length := by
  obtain ⟨container, field⟩ := addition
  rw [ownerAt, List.getElem?_concat_length]
  cases container with
  | root => rfl
  | panel p => rw [Tree.owner?, h.size]

/-- **What is listed stays listed** when a field is added. -/
theorem Lists.push (h : Lists additions tree) (addition : Addition) :
    Lists (additions ++ [addition]) (tree.push addition.container addition.field) where
  size := by
    rw [size_push, h.size, List.length_append, List.length_singleton]
  fields i := by
    rw [field?_push, h.size, h.fields]
    split_ifs with hi
    · rw [hi, List.getElem?_concat_length]
      rfl
    · rw [List.getElem?_append]
      split_ifs with hlt
      · rfl
      · rw [List.getElem?_eq_none (by omega), List.getElem?_eq_none (by simp; omega)]
  parents i := by
    rw [parent?_push, h.size, h.parents]
    split_ifs with hi
    · rw [hi, h.owner?]
    · by_cases hlt : i < additions.length
      · rw [ownerAt_append_of_lt _ _ hlt]
      · rw [ownerAt, ownerAt, List.getElem?_eq_none (by omega),
          List.getElem?_eq_none (by simp; omega)]
  children container := by
    have hbefore : ∀ i ∈ List.range additions.length,
        decide (homeAt (additions ++ [addition]) i = container) =
          decide (homeAt additions i = container) := by
      intro i hi
      rw [homeAt, homeAt, ownerAt_append_of_lt _ _ (List.mem_range.mp hi)]
    rw [children_push, h.children, h.owner?, h.size, List.length_append, List.length_singleton,
      List.range_succ, List.filter_append, List.filter_congr hbefore, List.filter_cons,
      List.filter_nil, homeAt]
    congr 1
    simp [eq_comm]

theorem lists_build (additions : List Addition) : Lists additions (build additions) := by
  induction additions using List.reverseRecOn with
  | nil => exact lists_empty
  | append_singleton additions addition ih =>
    rw [build_append]
    exact ih.push addition

/-- **Every field is listed once**, in one container. -/
theorem Lists.count (h : Lists additions tree) {i : Nat} (hi : i < additions.length)
    (container : Container) :
    (tree.children container).count i = if container = homeAt additions i then 1 else 0 := by
  rw [h.children]
  split_ifs with hc
  · rw [List.count_filter (by simp [hc]), List.count_range, if_pos hi]
  · rw [List.count_eq_zero]
    intro hmem
    exact hc (by simpa [eq_comm] using (List.mem_filter.mp hmem).2)

/-! ### The way up -/

/-- The fields above one, the outermost first: `owner` is the last of them and lies in the one
before it, and so on. -/
inductive Lineage (parent : Nat → Option Nat) : Option Nat → List Nat → Prop
  | top : Lineage parent none []
  | inside {p : Nat} {ids : List Nat} (h : Lineage parent (parent p) ids) :
      Lineage parent (some p) (ids ++ [p])

theorem exists_lineage {parent : Nat → Option Nat} (hlt : ∀ i p, parent i = some p → p < i)
    (i : Nat) : ∃ ids, Lineage parent (parent i) ids ∧ ∀ id ∈ ids, id < i := by
  induction i using Nat.strongRecOn with
  | ind i ih =>
    cases hp : parent i with
    | none => exact ⟨[], .top, by simp⟩
    | some p =>
      have hpi := hlt i p hp
      obtain ⟨ids, hids, hbelow⟩ := ih p hpi
      refine ⟨ids ++ [p], .inside hids, ?_⟩
      intro id hid
      rcases List.mem_append.mp hid with hid | hid
      · exact Nat.lt_trans (hbelow id hid) hpi
      · rwa [List.mem_singleton.mp hid]

def name? (tree : Tree) (id : Nat) : Option String :=
  (tree.field? id).bind Field.name?

theorem parent?_lt {i p : Nat} (h : tree.parent? i = some p) : p < i := by
  obtain ⟨node, hnode, hp⟩ := Option.bind_eq_some_iff.mp h
  exact tree.parent_lt i node p hnode hp

theorem lt_size_of_parent? {i p : Nat} (h : tree.parent? i = some p) : p < tree.size := by
  obtain ⟨node, hnode, -⟩ := Option.bind_eq_some_iff.mp h
  obtain ⟨hi, -⟩ := Array.getElem?_eq_some_iff.mp hnode
  exact Nat.lt_trans (parent?_lt h) hi

theorem climb_eq {owner : Option Nat} {ids : List Nat} (h : Lineage tree.parent? owner ids) :
    ∀ names, (∀ p, owner = some p → p < tree.size) →
      tree.climb names owner = ids.filterMap tree.name? ++ names := by
  induction h with
  | top =>
    intro names _
    rw [climb]
    rfl
  | @inside p ids h ih =>
    intro names hsize
    have hp := hsize p rfl
    have hnode : tree.nodes[p]? = some tree.nodes[p] := Array.getElem?_eq_getElem hp
    have hparent : tree.parent? p = tree.nodes[p].parent := by
      rw [parent?, hnode]
      rfl
    have hname : tree.name? p = tree.nodes[p].field.name? := by
      rw [name?, field?, hnode]
      rfl
    rw [climb]
    split
    · rename_i hnone
      rw [hnode] at hnone
      cases hnone
    · rename_i node hsome
      rw [hnode] at hsome
      cases hsome
      rw [← hparent, ih _ fun q hq => lt_size_of_parent? hq, List.filterMap_append,
        List.append_assoc, ← hname, List.filterMap_cons]
      cases tree.name? p <;> rfl

/-- **The path of a field is the names of its ancestors and its own.** -/
theorem path_eq {i : Nat} {ids : List Nat} (h : Lineage tree.parent? (tree.parent? i) ids) :
    tree.path i = match tree.name? i with
      | none => []
      | some name => ids.filterMap tree.name? ++ [name] := by
  rw [path, name?, field?]
  cases hnode : tree.nodes[i]? with
  | none => rfl
  | some node =>
    have hparent : tree.parent? i = node.parent := by
      rw [parent?, hnode]
      rfl
    simp only [Option.map_some, Option.bind_some]
    cases node.field.name? with
    | none => rfl
    | some name =>
      simp only
      rw [← hparent, climb_eq h _ fun p hp => lt_size_of_parent? hp]

theorem exists_path_eq (tree : Tree) (i : Nat) :
    ∃ ids, Lineage tree.parent? (tree.parent? i) ids ∧ tree.path i = match tree.name? i with
      | none => []
      | some name => ids.filterMap tree.name? ++ [name] := by
  have hlt : ∀ i p, tree.parent? i = some p → p < i := fun i p hp => parent?_lt hp
  obtain ⟨ids, hids, -⟩ := exists_lineage hlt i
  exact ⟨ids, hids, path_eq hids⟩

/-- **Paths are made of names**, so that they stay where the names do. -/
theorem path_congr {tree' : Tree} (hparent : ∀ i, tree'.parent? i = tree.parent? i)
    (hname : ∀ i, tree'.name? i = tree.name? i) (i : Nat) : tree'.path i = tree.path i := by
  have hparents : tree'.parent? = tree.parent? := funext hparent
  have hnames : tree'.name? = tree.name? := funext hname
  obtain ⟨ids, hids, hpath⟩ := tree.exists_path_eq i
  have hids' : Lineage tree'.parent? (tree'.parent? i) ids := by rwa [hparents]
  rw [hpath, path_eq hids', hnames]

/-- A field without a name has no path, and any other one has. -/
theorem path_eq_nil_iff {i : Nat} : tree.path i = [] ↔ tree.name? i = none := by
  obtain ⟨ids, -, hpath⟩ := tree.exists_path_eq i
  rw [hpath]
  cases tree.name? i with
  | none => simp
  | some name => simp

theorem exists_name?_of_mem_path {i : Nat} {name : String} (h : name ∈ tree.path i) :
    ∃ j, tree.name? j = some name := by
  obtain ⟨ids, -, hpath⟩ := tree.exists_path_eq i
  rw [hpath] at h
  cases hi : tree.name? i with
  | none =>
    rw [hi] at h
    cases h
  | some own =>
    rw [hi] at h
    rcases List.mem_append.mp h with h | h
    · obtain ⟨j, -, hj⟩ := List.mem_filterMap.mp h
      exact ⟨j, hj⟩
    · rw [List.mem_singleton.mp h]
      exact ⟨i, hi⟩

end Tree

end AdaptiveForm
