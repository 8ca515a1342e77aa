import AdaptiveForm.Proofs.Field.Attribute
import AdaptiveForm.Proofs.Form.Listing

/-!
# The form as a forest

What containers list can be drawn as a forest: `Nest` is a field with those that lie in it, by
number.  Adding a field adds a leaf, so after any additions there is a forest that follows the lists
and has every number in it once.

Assembling takes the nodes out of their slots.  It goes along the forest: as every number is there
once, no node is missing when its turn comes, and what comes out is the forest with the fields in
the places of their numbers, `Drawn.items_eq`.
-/

namespace AdaptiveForm

/-- A field with those that lie in it, by number. -/
inductive Nest where
  | mk (id : Nat) (inside : List Nest)

namespace Nest

def id : Nest → Nat
  | .mk id _ => id

mutual

def ids : Nest → List Nat
  | .mk id inside => id :: idsAll inside

def idsAll : List Nest → List Nat
  | [] => []
  | nest :: nests => nest.ids ++ idsAll nests

end

mutual

/-- Every field of the nest has in it what the lists say, in their order. -/
def Follows (lists : Nat → List Nat) : Nest → Prop
  | .mk id inside => inside.map Nest.id = lists id ∧ AllFollow lists inside

def AllFollow (lists : Nat → List Nat) : List Nest → Prop
  | [] => True
  | nest :: nests => nest.Follows lists ∧ AllFollow lists nests

end

mutual

/-- The nest with a new field as the last one in `owner`. -/
def add (owner new : Nat) : Nest → Nest
  | .mk id inside => .mk id (addAll owner new inside ++ if id = owner then [.mk new []] else [])

def addAll (owner new : Nat) : List Nest → List Nest
  | [] => []
  | nest :: nests => nest.add owner new :: addAll owner new nests

end

/-! ### Forests -/

theorem idsAll_append (nests nests' : List Nest) :
    idsAll (nests ++ nests') = idsAll nests ++ idsAll nests' := by
  induction nests with
  | nil => rfl
  | cons nest nests ih => rw [List.cons_append, idsAll, idsAll, ih, List.append_assoc]

theorem allFollow_append {lists : Nat → List Nat} {nests nests' : List Nest} :
    AllFollow lists (nests ++ nests') ↔ AllFollow lists nests ∧ AllFollow lists nests' := by
  induction nests with
  | nil => simp [AllFollow]
  | cons nest nests ih => rw [List.cons_append, AllFollow, AllFollow, ih, and_assoc]

theorem id_add (owner new : Nat) (nest : Nest) : (nest.add owner new).id = nest.id := by
  cases nest
  rw [add]
  rfl

theorem map_id_addAll (owner new : Nat) (nests : List Nest) :
    (addAll owner new nests).map Nest.id = nests.map Nest.id := by
  induction nests with
  | nil => rfl
  | cons nest nests ih => rw [addAll, List.map_cons, List.map_cons, id_add, ih]

mutual

/-- A new number is added once for every time that its owner is there. -/
theorem count_ids_add (owner new i : Nat) : ∀ nest : Nest, (nest.add owner new).ids.count i =
    nest.ids.count i + if i = new then nest.ids.count owner else 0
  | .mk id inside => by
    have hinside := count_idsAll_addAll owner new i inside
    rw [add, ids, ids, idsAll_append, List.count_cons, List.count_append, List.count_cons,
      List.count_cons, hinside]
    by_cases hid : id = owner <;> by_cases hi : i = new <;>
      simp [hid, hi, idsAll, ids, Ne.symm] <;> omega

theorem count_idsAll_addAll (owner new i : Nat) : ∀ nests : List Nest,
    (idsAll (addAll owner new nests)).count i =
      (idsAll nests).count i + if i = new then (idsAll nests).count owner else 0
  | [] => by simp [addAll, idsAll]
  | nest :: nests => by
    have hnest := count_ids_add owner new i nest
    have hnests := count_idsAll_addAll owner new i nests
    rw [addAll, idsAll, idsAll, List.count_append, List.count_append, List.count_append, hnest,
      hnests]
    split_ifs <;> omega

end

mutual

/-- What follows the lists follows them when a new number without list is put at the end of one. -/
theorem Follows.add {lists lists' : Nat → List Nat} {owner new : Nat}
    (hnew : lists' new = []) : ∀ {nest : Nest},
    (∀ i ∈ nest.ids, lists' i = lists i ++ if i = owner then [new] else []) →
    nest.Follows lists → (nest.add owner new).Follows lists'
  | .mk id inside, h, hf => by
    rw [Follows] at hf
    rw [ids] at h
    obtain ⟨hmap, hinside⟩ := hf
    have hid := h id List.mem_cons_self
    have hadd := AllFollow.addAll hnew (fun i hi => h i (List.mem_cons_of_mem _ hi)) hinside
    rw [Nest.add, Follows, List.map_append, map_id_addAll, hmap, hid, allFollow_append]
    refine ⟨?_, hadd, ?_⟩
    · split_ifs <;> rfl
    · split_ifs
      · exact ⟨⟨hnew.symm, trivial⟩, trivial⟩
      · trivial

theorem AllFollow.addAll {lists lists' : Nat → List Nat} {owner new : Nat}
    (hnew : lists' new = []) : ∀ {nests : List Nest},
    (∀ i ∈ idsAll nests, lists' i = lists i ++ if i = owner then [new] else []) →
    AllFollow lists nests → AllFollow lists' (Nest.addAll owner new nests)
  | [], _, _ => trivial
  | nest :: nests, h, hf => by
    rw [AllFollow] at hf
    rw [idsAll] at h
    rw [Nest.addAll, AllFollow]
    exact ⟨.add hnew (fun i hi => h i (List.mem_append_left _ hi)) hf.1,
      .addAll hnew (fun i hi => h i (List.mem_append_right _ hi)) hf.2⟩

end

mutual

theorem Follows.congr {lists lists' : Nat → List Nat} : ∀ {nest : Nest},
    (∀ i ∈ nest.ids, lists' i = lists i) → nest.Follows lists → nest.Follows lists'
  | .mk id inside, h, hf => by
    rw [Follows] at hf ⊢
    rw [ids] at h
    exact ⟨hf.1.trans (h id List.mem_cons_self).symm,
      AllFollow.congr (fun i hi => h i (List.mem_cons_of_mem _ hi)) hf.2⟩

theorem AllFollow.congr {lists lists' : Nat → List Nat} : ∀ {nests : List Nest},
    (∀ i ∈ idsAll nests, lists' i = lists i) → AllFollow lists nests → AllFollow lists' nests
  | [], _, _ => trivial
  | nest :: nests, h, hf => by
    rw [AllFollow] at hf ⊢
    rw [idsAll] at h
    exact ⟨.congr (fun i hi => h i (List.mem_append_left _ hi)) hf.1,
      .congr (fun i hi => h i (List.mem_append_right _ hi)) hf.2⟩

end

end Nest

open Nest (ids idsAll Follows AllFollow addAll)

namespace Tree

abbrev lists (tree : Tree) (id : Nat) : List Nat :=
  tree.children (.panel id)

/-- The forest is drawn from the lists of the form and has every number in it once. -/
structure Drawn (tree : Tree) (forest : List Nest) : Prop where
  roots : forest.map Nest.id = tree.children .root
  follows : AllFollow tree.lists forest
  once : (idsAll forest).Perm (List.range tree.size)

variable {tree : Tree} {forest : List Nest} (container : Container) (field : Field)

theorem Drawn.lt_size (h : Drawn tree forest) {i : Nat} (hi : i ∈ idsAll forest) :
    i < tree.size :=
  List.mem_range.mp (h.once.mem_iff.mp hi)

theorem Drawn.congr {tree' : Tree} (h : Drawn tree forest) (hsize : tree'.size = tree.size)
    (hchildren : ∀ container, tree'.children container = tree.children container) :
    Drawn tree' forest where
  roots := by rw [h.roots, hchildren]
  follows := h.follows.congr fun i _ => hchildren (.panel i)
  once := by rw [hsize]; exact h.once

theorem lists_size (tree : Tree) : tree.lists tree.size = [] := by
  rw [lists, children, nodes_size]
  rfl

theorem lists_push (tree : Tree) (i : Nat) : (tree.push container field).lists i =
    tree.lists i ++ if tree.owner? container = some i then [tree.size] else [] := by
  rw [lists, children_push]
  cases tree.owner? container <;> simp [Container.ofOwner, eq_comm]

theorem lists_push_size (tree : Tree) : (tree.push container field).lists tree.size = [] := by
  rw [lists_push, lists_size, if_neg]
  · rfl
  · intro h
    exact Nat.lt_irrefl _ (owner?_lt h)

/-- **A form with one more field can be drawn** with one more leaf. -/
theorem Drawn.push (h : Drawn tree forest) :
    ∃ forest', Drawn (tree.push container field) forest' := by
  have hlists := lists_push container field tree
  have hnew := lists_push_size container field tree
  cases howner : tree.owner? container with
  | none =>
    simp only [howner, reduceCtorEq, if_false, List.append_nil] at hlists
    refine ⟨forest ++ [.mk tree.size []], ?_, ?_, ?_⟩
    · rw [children_push, howner, List.map_append, h.roots]
      rfl
    · rw [Nest.allFollow_append]
      exact ⟨h.follows.congr fun i _ => hlists i, ⟨hnew.symm, trivial⟩, trivial⟩
    · rw [size_push, List.range_succ, Nest.idsAll_append]
      exact h.once.append_right _
  | some p =>
    have hp : p < tree.size := owner?_lt howner
    have hlists : ∀ i, (tree.push container field).lists i =
        tree.lists i ++ if i = p then [tree.size] else [] := by
      intro i
      rw [hlists i, howner]
      simp [eq_comm]
    refine ⟨addAll p tree.size forest, ?_, ?_, ?_⟩
    · rw [Nest.map_id_addAll, h.roots, children_push, howner]
      simp [Container.ofOwner]
    · exact h.follows.addAll hnew fun i _ => hlists i
    · have hone : (List.range tree.size).count p = 1 := by rw [List.count_range, if_pos hp]
      rw [size_push, List.range_succ, List.perm_iff_count]
      intro i
      rw [Nest.count_idsAll_addAll, h.once.count_eq, h.once.count_eq, hone, List.count_append,
        List.count_singleton]
      by_cases hi : i = tree.size
      · rw [if_pos hi, if_pos (by simp [hi])]
      · rw [if_neg hi, if_neg (by simpa using Ne.symm hi)]

theorem drawn_build (additions : List Addition) : ∃ forest, Drawn (build additions) forest := by
  induction additions using List.reverseRecOn with
  | nil => exact ⟨[], rfl, trivial, .refl _⟩
  | append_singleton additions addition ih =>
    obtain ⟨forest, h⟩ := ih
    rw [build_append]
    exact h.push addition.container addition.field

/-! ### Fields with others inside -/

def ownItems (field : Field) : List Json :=
  match field.get? "items" with
  | some (.array own) => own
  | _ => []

/-- The attributes are those of a field, but with `values` behind its own items, if there are
any values. -/
structure Extends (field : Field) (values : List Json) (entries : Entries) : Prop where
  unchanged : values = [] → entries = field
  items : values ≠ [] → entries.get? "items" = some (.array (ownItems field ++ values))
  others : entries.erase "items" = field.erase "items"

theorem extends_withItems (field : Field) {values : List Json} (h : values ≠ []) :
    Extends field values (withItems field values) := by
  have hinsert : withItems field values =
      Entries.insert field "items" (.array (ownItems field ++ values)) := by
    rw [withItems, ownItems]
    cases field.get? "items" with
    | none => rfl
    | some own => cases own <;> rfl
  rw [hinsert]
  exact ⟨fun he => absurd he h, fun _ => Entries.get?_insert_self field _ _,
    Entries.erase_insert field _ _⟩

theorem extends_nil (field : Field) : Extends field [] field :=
  ⟨fun _ => rfl, fun h => absurd rfl h, rfl⟩

mutual

/-- The field of a nest, with those that lie in it inside. -/
def render (tree : Tree) : Nest → Json
  | .mk id inside =>
    let field := (tree.field? id).getD []
    .object (if inside.isEmpty then field else withItems field (renderAll tree inside))

def renderAll (tree : Tree) : List Nest → List Json
  | [] => []
  | nest :: nests => render tree nest :: renderAll tree nests

end

mutual

/-- The value is the field of a nest, with the values of those that lie in it inside. -/
inductive Shows (tree : Tree) : Nest → Json → Prop
  | mk {id : Nat} {inside : List Nest} {field : Field} {values : List Json} {entries : Entries}
      (hf : tree.field? id = some field) (hv : ShowsAll tree inside values)
      (he : Extends field values entries) : Shows tree (.mk id inside) (.object entries)

inductive ShowsAll (tree : Tree) : List Nest → List Json → Prop
  | nil : ShowsAll tree [] []
  | cons {nest : Nest} {nests : List Nest} {value : Json} {values : List Json}
      (h : Shows tree nest value) (hs : ShowsAll tree nests values) :
      ShowsAll tree (nest :: nests) (value :: values)

end

theorem ShowsAll.length_eq : ∀ {nests : List Nest} {values : List Json},
    ShowsAll tree nests values → values.length = nests.length
  | [], _, .nil => rfl
  | _ :: _, _, .cons _ hs => by rw [List.length_cons, List.length_cons, hs.length_eq]

theorem extends_render (tree : Tree) (field : Field) (inside : List Nest) :
    Extends field (tree.renderAll inside)
      (if inside.isEmpty then field else withItems field (tree.renderAll inside)) := by
  cases inside with
  | nil => exact extends_nil field
  | cons nest inside => exact extends_withItems field (List.cons_ne_nil _ _)

mutual

theorem shows_render : ∀ {nest : Nest}, (∀ i ∈ nest.ids, i < tree.size) →
    Shows tree nest (tree.render nest)
  | .mk id inside, h => by
    rw [ids] at h
    have hfield : tree.field? id = some ((tree.field? id).getD []) := by
      rw [field?, Array.getElem?_eq_getElem (h id List.mem_cons_self)]
      rfl
    have hinside := showsAll_render fun i hi => h i (List.mem_cons_of_mem _ hi)
    exact .mk hfield hinside (extends_render tree _ inside)

theorem showsAll_render : ∀ {nests : List Nest}, (∀ i ∈ idsAll nests, i < tree.size) →
    ShowsAll tree nests (tree.renderAll nests)
  | [], _ => .nil
  | _ :: _, h => by
    rw [idsAll] at h
    exact .cons (shows_render fun i hi => h i (List.mem_append_left _ hi))
      (showsAll_render fun i hi => h i (List.mem_append_right _ hi))

end

/-! ### Taking nodes -/

theorem Slots.node?_take (slots : Slots) (id i : Nat) :
    (slots.take id).node? i = if i = id then none else slots.node? i := by
  rw [Slots.take, Slots.node?, Slots.node?, Array.getElem?_setIfInBounds]
  by_cases hi : i = id
  · rw [if_pos hi.symm, if_pos hi]
    split_ifs <;> rfl
  · rw [if_neg (Ne.symm hi), if_neg hi]

theorem assemble_of_node? {slots : Slots} {id : Nat} {node : Node}
    (h : slots.node? id = some node) :
    (assemble slots id).1 = some (.object (if node.children.isEmpty then node.field
      else withItems node.field (assembleAll (slots.take id) node.children).1)) ∧
    (assemble slots id).2.1 = (assembleAll (slots.take id) node.children).2.1 := by
  rw [assemble]
  split
  · rename_i hnone
    rw [h] at hnone
    cases hnone
  · rename_i node' hsome
    rw [h] at hsome
    cases hsome
    exact ⟨rfl, rfl⟩

theorem assembleAll_cons (slots : Slots) (id : Nat) (ids : List Nat) :
    (assembleAll slots (id :: ids)).1 =
      (assemble slots id).1.toList ++ (assembleAll (assemble slots id).2.1 ids).1 ∧
    (assembleAll slots (id :: ids)).2.1 = (assembleAll (assemble slots id).2.1 ids).2.1 := by
  rw [assembleAll]
  exact ⟨rfl, rfl⟩

mutual

/-- **A nest whose nodes are all in their slots is assembled whole**, and its slots are empty
afterwards. -/
theorem assemble_nest : ∀ {nest : Nest} {slots : Slots}, nest.Follows tree.lists →
    (∀ i ∈ nest.ids, i < tree.size ∧ slots.node? i = tree.nodes[i]?) → nest.ids.Nodup →
    (assemble slots nest.id).1 = some (tree.render nest) ∧
      ∀ i, (assemble slots nest.id).2.1.node? i =
        if i ∈ nest.ids then none else slots.node? i
  | .mk id inside, slots, hfollows, hslots, hnodup => by
    rw [Follows] at hfollows
    rw [ids, List.nodup_cons] at hnodup
    obtain ⟨hsize, hnode⟩ := hslots id List.mem_cons_self
    rw [Array.getElem?_eq_getElem hsize] at hnode
    have hlists : tree.lists id = tree.nodes[id].children := by
      rw [lists, children, Array.getElem?_eq_getElem hsize]
      rfl
    have hfield : tree.field? id = some tree.nodes[id].field := by
      rw [field?, Array.getElem?_eq_getElem hsize]
      rfl
    -- the slot of `id` is empty now, but `id` does not occur in what lies in it
    have hinside : ∀ i ∈ idsAll inside,
        i < tree.size ∧ (slots.take id).node? i = tree.nodes[i]? := by
      intro i hi
      have hne : i ≠ id := by
        rintro rfl
        exact hnodup.1 hi
      rw [Slots.node?_take, if_neg hne]
      exact hslots i (List.mem_cons_of_mem _ hi)
    obtain ⟨hvalues, hleft⟩ := assembleAll_nests hfollows.2 hinside hnodup.2
    obtain ⟨hvalue, hrest⟩ := assemble_of_node? hnode
    rw [← hlists, ← hfollows.1] at hvalue hrest
    refine ⟨?_, ?_⟩
    · rw [Nest.id, hvalue, hvalues, render, hfield, Option.getD_some, List.isEmpty_map]
    · intro i
      rw [Nest.id, hrest, hleft, Slots.node?_take, ids]
      by_cases hi : i = id <;> by_cases hi' : i ∈ idsAll inside <;> simp [hi, hi']

theorem assembleAll_nests : ∀ {nests : List Nest} {slots : Slots}, AllFollow tree.lists nests →
    (∀ i ∈ idsAll nests, i < tree.size ∧ slots.node? i = tree.nodes[i]?) →
    (idsAll nests).Nodup →
    (assembleAll slots (nests.map Nest.id)).1 = tree.renderAll nests ∧
      ∀ i, (assembleAll slots (nests.map Nest.id)).2.1.node? i =
        if i ∈ idsAll nests then none else slots.node? i
  | [], slots, _, _, _ => by
    refine ⟨?_, ?_⟩
    · rw [List.map_nil, assembleAll, renderAll]
    · intro i
      rw [List.map_nil, assembleAll]
      simp [idsAll]
  | nest :: nests, slots, hfollows, hslots, hnodup => by
    rw [AllFollow] at hfollows
    rw [idsAll] at hslots hnodup
    obtain ⟨hnest, hnests, hdisjoint⟩ := List.nodup_append.mp hnodup
    obtain ⟨hvalue, hleft⟩ := assemble_nest hfollows.1
      (fun i hi => hslots i (List.mem_append_left _ hi)) hnest
    -- the first nest has taken its own nodes only
    have hrest : ∀ i ∈ idsAll nests, i < tree.size ∧
        (assemble slots nest.id).2.1.node? i = tree.nodes[i]? := by
      intro i hi
      rw [hleft, if_neg fun h => hdisjoint i h i hi rfl]
      exact hslots i (List.mem_append_right _ hi)
    obtain ⟨hvalues, hleftAll⟩ := assembleAll_nests hfollows.2 hrest hnests
    obtain ⟨hcons, hend⟩ := assembleAll_cons slots nest.id (nests.map Nest.id)
    refine ⟨?_, ?_⟩
    · rw [List.map_cons, hcons, hvalue, hvalues, renderAll]
      rfl
    · intro i
      rw [List.map_cons, hend, hleftAll, hleft, idsAll]
      by_cases hi : i ∈ nest.ids <;> by_cases hi' : i ∈ idsAll nests <;> simp [hi, hi']

end

/-- **The items of a form are the forest that is drawn from it**, with the fields in the places of
their numbers. -/
theorem Drawn.items_eq (h : Drawn tree forest) : tree.items = tree.renderAll forest := by
  have hslots : ∀ i ∈ idsAll forest,
      i < tree.size ∧ Slots.node? (tree.nodes.map some) i = tree.nodes[i]? := by
    intro i hi
    refine ⟨h.lt_size hi, ?_⟩
    rw [Slots.node?, Array.getElem?_map]
    cases tree.nodes[i]? <;> rfl
  have hnodup : (idsAll forest).Nodup := h.once.nodup_iff.mpr List.nodup_range
  have hroots : tree.rootItems = forest.map Nest.id := h.roots.symm
  rw [items, hroots, (assembleAll_nests h.follows hslots hnodup).1]

theorem Drawn.showsAll_items (h : Drawn tree forest) : ShowsAll tree forest tree.items := by
  rw [h.items_eq]
  exact showsAll_render fun _ => h.lt_size

/-- **No field is lost, doubled or put into a circle.** Whatever the containers are, every field is
listed in one place only, which is the one that its node records and lies before it; its path is
made of the names above it; and the items of the form show a forest with every field in it once,
in the places that the lists give. -/
theorem build_keeps_fields (additions : List Addition) :
    let tree := build additions
    Lists additions tree ∧
    (∀ i < additions.length, ∀ container, (tree.children container).count i =
      if container = .ofOwner (tree.parent? i) then 1 else 0) ∧
    (∀ i p, tree.parent? i = some p → p < i) ∧
    (∀ i, ∃ ancestors, Lineage tree.parent? (tree.parent? i) ancestors ∧
      (∀ ancestor ∈ ancestors, ancestor < i) ∧
      tree.path i = match tree.name? i with
        | none => []
        | some name => ancestors.filterMap tree.name? ++ [name]) ∧
    ∃ forest, Drawn tree forest ∧ ShowsAll tree forest tree.items := by
  intro tree
  have hlists := lists_build additions
  have hlt : ∀ i p, tree.parent? i = some p → p < i := fun i p h => parent?_lt h
  refine ⟨hlists, ?_, hlt, ?_, ?_⟩
  · intro i hi container
    rw [hlists.count hi, homeAt, hlists.parents]
  · intro i
    obtain ⟨ancestors, hlineage, hbelow⟩ := exists_lineage hlt i
    exact ⟨ancestors, hlineage, hbelow, path_eq hlineage⟩
  · obtain ⟨forest, hforest⟩ := drawn_build additions
    exact ⟨forest, hforest, hforest.showsAll_items⟩

end Tree

end AdaptiveForm
