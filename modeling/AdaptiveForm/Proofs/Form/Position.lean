import AdaptiveForm.Proofs.Form.Forest
import Mathlib.Data.List.Forall2
import Mathlib.Data.List.Nodup

/-!
# Following names through a document

A position tells which item is taken at each level on the way down.  `Nest.At` is a nest at a
position of a forest, with the numbers of those around it, and `Leads` an item at a position of a
document that names lead to, where items without a name are looked through.

As the values of a document have the shape of its forest, the names that lead to an item are those
of the fields around it and its own (`ShowsAll.exists_leads`, `ShowsAll.exists_at`), and these are
the path of its field.  So a path that one field only has leads to that field and to no other item,
`Drawn.leads_path`.
-/

namespace AdaptiveForm

/-! ### Positions in a forest -/

namespace Nest

/-- The nest at a position of a forest, and the numbers of the nests around it, the outermost
first. -/
inductive At : List Nest → List Nat → List Nat → Nest → Prop
  | here {forest : List Nest} {k : Nat} {nest : Nest} (h : forest[k]? = some nest) :
      At forest [k] [] nest
  | inside {forest : List Nest} {k id : Nat} {inside : List Nest} {pos above : List Nat}
      {nest : Nest} (h : forest[k]? = some (.mk id inside)) (hs : At inside pos above nest) :
      At forest (k :: pos) (id :: above) nest

variable {forest : List Nest} {pos pos' above above' : List Nat} {nest nest' : Nest}

theorem idsAll_eq_flatMap (forest : List Nest) : idsAll forest = forest.flatMap ids := by
  induction forest with
  | nil => rfl
  | cons nest forest ih => rw [idsAll, List.flatMap_cons, ih]

theorem id_mem_ids (nest : Nest) : nest.id ∈ nest.ids := by
  cases nest
  exact List.mem_cons_self

theorem At.mem (h : At forest pos above nest) : nest.id ∈ idsAll forest := by
  induction h with
  | @here forest k nest h =>
    rw [idsAll_eq_flatMap, List.mem_flatMap]
    exact ⟨nest, List.mem_of_getElem? h, nest.id_mem_ids⟩
  | @inside forest k id inside pos above nest h _ ih =>
    rw [idsAll_eq_flatMap, List.mem_flatMap]
    exact ⟨.mk id inside, List.mem_of_getElem? h, List.mem_cons_of_mem _ ih⟩

mutual

theorem exists_at_of_mem_ids {i : Nat} : ∀ {nest : Nest}, i ∈ nest.ids → i = nest.id ∨
    ∃ inside pos above nest', nest = .mk nest.id inside ∧ At inside pos above nest' ∧ nest'.id = i
  | .mk id inside, h => by
    rw [ids] at h
    rcases List.mem_cons.mp h with rfl | h
    · exact .inl rfl
    · obtain ⟨pos, above, nest', hat, hid⟩ := exists_at h
      exact .inr ⟨inside, pos, above, nest', rfl, hat, hid⟩

theorem exists_at {i : Nat} : ∀ {forest : List Nest}, i ∈ idsAll forest →
    ∃ pos above nest, At forest pos above nest ∧ nest.id = i
  | [], h => by
    rw [idsAll] at h
    cases h
  | first :: rest, h => by
    rw [idsAll] at h
    rcases List.mem_append.mp h with h | h
    · rcases exists_at_of_mem_ids h with hi | ⟨inside, pos, above, nest, hfirst, hat, hid⟩
      · exact ⟨[0], [], first, .here rfl, hi.symm⟩
      · exact ⟨0 :: pos, first.id :: above, nest, .inside (congrArg some hfirst) hat, hid⟩
    · obtain ⟨pos, above, nest, hat, hid⟩ := exists_at h
      cases hat with
      | @here _ k _ hk => exact ⟨[k + 1], [], nest, .here hk, hid⟩
      | @inside _ k id _ pos above _ hk hs =>
        exact ⟨(k + 1) :: pos, id :: above, nest, .inside hk hs, hid⟩

end

/-- Where every number is there once, one number is in one nest only. -/
theorem index_unique (hnodup : (idsAll forest).Nodup) {i k k' : Nat} {nest nest' : Nest}
    (hk : forest[k]? = some nest) (hk' : forest[k']? = some nest') (hi : i ∈ nest.ids)
    (hi' : i ∈ nest'.ids) : k = k' := by
  rw [idsAll_eq_flatMap, List.nodup_flatMap] at hnodup
  obtain ⟨-, hdisjoint⟩ := hnodup
  rw [List.pairwise_iff_getElem] at hdisjoint
  obtain ⟨hlt, rfl⟩ := List.getElem?_eq_some_iff.mp hk
  obtain ⟨hlt', rfl⟩ := List.getElem?_eq_some_iff.mp hk'
  by_contra hne
  rcases Nat.lt_or_gt_of_ne hne with h | h
  · exact hdisjoint k k' hlt hlt' h hi hi'
  · exact hdisjoint k' k hlt' hlt h hi' hi

theorem nodup_inside (hnodup : (idsAll forest).Nodup) {k id : Nat} {inside : List Nest}
    (hk : forest[k]? = some (.mk id inside)) : id ∉ idsAll inside ∧ (idsAll inside).Nodup := by
  rw [idsAll_eq_flatMap, List.nodup_flatMap] at hnodup
  have hnest := hnodup.1 _ (List.mem_of_getElem? hk)
  rw [ids, List.nodup_cons] at hnest
  exact hnest

theorem AllFollow.of_getElem? {lists : Nat → List Nat} {k id : Nat} {inside : List Nest}
    (h : AllFollow lists forest) (hk : forest[k]? = some (.mk id inside)) :
    inside.map Nest.id = lists id ∧ AllFollow lists inside := by
  induction forest generalizing k with
  | nil => cases hk
  | cons first rest ih =>
    rw [AllFollow] at h
    cases k with
    | zero =>
      cases hk
      exact h.1
    | succ k => exact ih h.2 hk

/-- **A number has one position.** -/
theorem At.unique (hnodup : (idsAll forest).Nodup) (h : At forest pos above nest)
    (h' : At forest pos' above' nest') (hid : nest.id = nest'.id) : pos = pos' := by
  induction h generalizing pos' above' with
  | @here forest k nest hk =>
    cases h' with
    | here hk' =>
      have hindex := index_unique hnodup hk hk' nest.id_mem_ids (hid ▸ nest'.id_mem_ids)
      rw [hindex]
    | @inside _ k' id inside' pos' above' _ hk' hs' =>
      -- the nest itself has its number, and so does one inside of it
      have hmem : nest.id ∈ idsAll inside' := hid ▸ hs'.mem
      have hindex := index_unique hnodup hk hk' nest.id_mem_ids (List.mem_cons_of_mem _ hmem)
      subst hindex
      cases hk.symm.trans hk'
      exact absurd hmem (nodup_inside hnodup hk).1
  | @inside forest k id inside pos above nest hk hs ih =>
    have hmem : nest.id ∈ idsAll inside := hs.mem
    cases h' with
    | here hk' =>
      have hindex := index_unique hnodup hk hk' (List.mem_cons_of_mem _ hmem)
        (hid ▸ nest'.id_mem_ids)
      subst hindex
      cases hk.symm.trans hk'
      have hself : nest.id = id := hid
      exact absurd (hself ▸ hmem) (nodup_inside hnodup hk).1
    | @inside _ k' id' inside' pos' above' _ hk' hs' =>
      have hmem' : nest.id ∈ idsAll inside' := hid ▸ hs'.mem
      have hindex := index_unique hnodup hk hk' (List.mem_cons_of_mem _ hmem)
        (List.mem_cons_of_mem _ hmem')
      subst hindex
      cases hk.symm.trans hk'
      rw [ih (nodup_inside hnodup hk).2 hs' hid]

end Nest

open Nest (At idsAll AllFollow)

/-! ### Names in a document -/

namespace Json

def name? (item : Json) : Option String :=
  (item.get? "name").bind key?

def items (item : Json) : List Json :=
  ((item.get? "items").bind asArray?).getD []

end Json

/-- The item at a position to which names lead: the first name is that of an item, and the next one
is looked for among the items inside; an item without a name is looked through. -/
inductive Leads : List Json → List String → List Nat → Json → Prop
  | here {items : List Json} {name : String} {k : Nat} {item : Json} (hitem : items[k]? = some item)
      (hname : item.name? = some name) : Leads items [name] [k] item
  | into {items : List Json} {name : String} {names : List String} {k : Nat} {pos : List Nat}
      {item target : Json} (hitem : items[k]? = some item) (hname : item.name? = some name)
      (h : Leads item.items names pos target) : Leads items (name :: names) (k :: pos) target
  | through {items : List Json} {names : List String} {k : Nat} {pos : List Nat}
      {item target : Json} (hitem : items[k]? = some item) (hname : item.name? = none)
      (h : Leads item.items names pos target) : Leads items names (k :: pos) target

theorem Leads.pos_ne_nil {items : List Json} {names : List String} {pos : List Nat} {item : Json}
    (h : Leads items names pos item) : pos ≠ [] := by
  cases h <;> exact List.cons_ne_nil _ _

def Json.itemAt? : List Json → List Nat → Option Json
  | _, [] => none
  | items, k :: pos =>
    items[k]?.bind fun item => if pos = [] then some item else itemAt? item.items pos

theorem Leads.itemAt? {items : List Json} {names : List String} {pos : List Nat} {item : Json}
    (h : Leads items names pos item) : Json.itemAt? items pos = some item := by
  induction h with
  | here hitem _ =>
    rw [Json.itemAt?, hitem, Option.bind_some, if_pos rfl]
  | into hitem _ h ih =>
    rw [Json.itemAt?, hitem, Option.bind_some, if_neg h.pos_ne_nil]
    exact ih
  | through hitem _ h ih =>
    rw [Json.itemAt?, hitem, Option.bind_some, if_neg h.pos_ne_nil]
    exact ih

namespace Tree

variable {tree : Tree} {forest : List Nest} {values : List Json} {nest : Nest} {item : Json}

theorem ShowsAll.forall₂ : ∀ {forest : List Nest} {values : List Json},
    ShowsAll tree forest values → List.Forall₂ (Shows tree) forest values
  | [], _, .nil => .nil
  | _ :: _, _, .cons h hs => .cons h hs.forall₂

theorem ShowsAll.exists_nest {k : Nat} (h : ShowsAll tree forest values)
    (hitem : values[k]? = some item) : ∃ nest, forest[k]? = some nest ∧ Shows tree nest item := by
  obtain ⟨hlt, rfl⟩ := List.getElem?_eq_some_iff.mp hitem
  have hlength := h.length_eq
  have hlt' : k < forest.length := by omega
  refine ⟨forest[k], List.getElem?_eq_getElem hlt', ?_⟩
  exact (List.forall₂_iff_get.mp h.forall₂).2 k hlt' hlt

theorem ShowsAll.exists_item {k : Nat} (h : ShowsAll tree forest values)
    (hnest : forest[k]? = some nest) : ∃ item, values[k]? = some item ∧ Shows tree nest item := by
  obtain ⟨hlt, rfl⟩ := List.getElem?_eq_some_iff.mp hnest
  have hlength := h.length_eq
  have hlt' : k < values.length := by omega
  refine ⟨values[k], List.getElem?_eq_getElem hlt', ?_⟩
  exact (List.forall₂_iff_get.mp h.forall₂).2 k hlt hlt'

theorem Shows.name? (h : Shows tree nest item) : item.name? = tree.name? nest.id := by
  cases h with
  | @mk id inside field values entries hf hv he =>
    have hname : entries.get? "name" = field.get? "name" :=
      Entries.get?_eq_of_erase_eq he.others (by decide)
    rw [Tree.name?, Nest.id, hf, Option.bind_some, Field.name?, ← hname]
    rfl

def Itemless (tree : Tree) : Prop :=
  ∀ i field, tree.field? i = some field → Entries.get? field "items" = none

theorem Shows.items {id : Nat} {inside : List Nest} (hown : Itemless tree)
    (h : Shows tree (.mk id inside) item) : ShowsAll tree inside item.items := by
  cases h with
  | @mk _ _ field values entries hf hv he =>
    have hnone := hown id field hf
    have hitems : (Json.object entries).items = values := by
      rw [Json.items, Json.get?]
      by_cases hvalues : values = []
      · rw [he.unchanged hvalues, hnone, hvalues]
        rfl
      · rw [he.items hvalues, ownItems, hnone]
        rfl
    rw [hitems]
    exact hv

/-- At the position of a nest there is its item, and the names on the way lead there. -/
theorem ShowsAll.exists_leads {pos above : List Nat} {name : String} (hown : Itemless tree)
    (hs : ShowsAll tree forest values) (hat : At forest pos above nest)
    (hname : tree.name? nest.id = some name) : ∃ item, Shows tree nest item ∧
      Leads values (above.filterMap tree.name? ++ [name]) pos item := by
  induction hat generalizing values with
  | here hnest =>
    obtain ⟨item, hitem, hshows⟩ := hs.exists_item hnest
    exact ⟨item, hshows, .here hitem (hshows.name?.trans hname)⟩
  | @inside forest k id inside pos above nest hnest hat ih =>
    obtain ⟨around, hitem, hshows⟩ := hs.exists_item hnest
    obtain ⟨item, htarget, hleads⟩ := ih (hshows.items hown) hname
    refine ⟨item, htarget, ?_⟩
    have haround : around.name? = tree.name? id := hshows.name?
    cases hid : tree.name? id with
    | none =>
      rw [List.filterMap_cons_none hid]
      exact .through hitem (haround.trans hid) hleads
    | some first =>
      rw [List.filterMap_cons_some hid, List.cons_append]
      exact .into hitem (haround.trans hid) hleads

/-- **The names that lead to an item** are those of the fields around it, as far as they have one,
and its own. -/
theorem ShowsAll.exists_at {names : List String} {pos : List Nat} (hown : Itemless tree)
    (hs : ShowsAll tree forest values) (h : Leads values names pos item) :
    ∃ above nest name, At forest pos above nest ∧ tree.name? nest.id = some name ∧
      names = above.filterMap tree.name? ++ [name] := by
  induction h generalizing forest with
  | here hitem hname =>
    obtain ⟨nest, hnest, hshows⟩ := hs.exists_nest hitem
    rw [hshows.name?] at hname
    exact ⟨[], nest, _, .here hnest, hname, rfl⟩
  | into hitem hname _ ih =>
    obtain ⟨⟨id, inside⟩, hnest, hshows⟩ := hs.exists_nest hitem
    obtain ⟨above, nest, last, hat, hlast, rfl⟩ := ih (hshows.items hown)
    rw [hshows.name?, Nest.id] at hname
    refine ⟨id :: above, nest, last, .inside hnest hat, hlast, ?_⟩
    rw [List.filterMap_cons_some hname, List.cons_append]
  | through hitem hname _ ih =>
    obtain ⟨⟨id, inside⟩, hnest, hshows⟩ := hs.exists_nest hitem
    obtain ⟨above, nest, last, hat, hlast, rfl⟩ := ih (hshows.items hown)
    rw [hshows.name?, Nest.id] at hname
    refine ⟨id :: above, nest, last, .inside hnest hat, hlast, ?_⟩
    rw [List.filterMap_cons_none hname]

/-! ### Paths -/

def ParentsListed (tree : Tree) : Prop :=
  ∀ owner, ∀ i ∈ tree.children (.ofOwner owner), tree.parent? i = owner

theorem ParentsListed.parent? {owner : Option Nat} {k : Nat} (h : ParentsListed tree)
    (hroots : forest.map Nest.id = tree.children (.ofOwner owner))
    (hnest : forest[k]? = some nest) : tree.parent? nest.id = owner := by
  apply h
  rw [← hroots]
  exact List.mem_map_of_mem (List.mem_of_getElem? hnest)

theorem lineage_of_at {owner : Option Nat} {pos above ids : List Nat} (hlists : ParentsListed tree)
    (hroots : forest.map Nest.id = tree.children (.ofOwner owner))
    (hfollows : AllFollow tree.lists forest) (hids : Lineage tree.parent? owner ids)
    (hat : At forest pos above nest) :
    Lineage tree.parent? (tree.parent? nest.id) (ids ++ above) := by
  induction hat generalizing owner ids with
  | here hnest =>
    rw [hlists.parent? hroots hnest, List.append_nil]
    exact hids
  | @inside forest k id inside pos above nest hnest _ ih =>
    have hid : tree.parent? id = owner := hlists.parent? hroots hnest
    obtain ⟨hinside, hall⟩ := hfollows.of_getElem? hnest
    have hlineage : Lineage tree.parent? (some id) (ids ++ [id]) := .inside (hid ▸ hids)
    have hchildren : inside.map Nest.id = tree.children (.ofOwner (some id)) := hinside
    have happend := ih hchildren hall hlineage
    rwa [List.append_assoc] at happend

/-- The names on the way to a nest are the path of its field. -/
theorem Drawn.path_of_at {pos above : List Nat} {name : String} (hdrawn : Drawn tree forest)
    (hlists : ParentsListed tree) (hat : At forest pos above nest)
    (hname : tree.name? nest.id = some name) :
    tree.path nest.id = above.filterMap tree.name? ++ [name] := by
  have hlineage := lineage_of_at hlists hdrawn.roots hdrawn.follows .top hat
  rw [path_eq hlineage, hname, List.nil_append]

theorem lt_size_of_path {i : Nat} (h : tree.path i ≠ []) : i < tree.size := by
  by_contra hge
  have hnode : tree.nodes[i]? = none := Array.getElem?_eq_none (Nat.le_of_not_lt hge)
  rw [path, hnode] at h
  exact h rfl

/-- **A path that one field has leads to that field**, and to no other item. -/
theorem Drawn.leads_path (hdrawn : Drawn tree forest) (hlists : ParentsListed tree)
    (hown : Itemless tree) (hs : ShowsAll tree forest values) {i : Nat} (hpath : tree.path i ≠ [])
    (hunique : ∀ j < tree.size, tree.path j = tree.path i → j = i) :
    ∃ pos above nest item, At forest pos above nest ∧ nest.id = i ∧ Shows tree nest item ∧
      ∀ pos' item', Leads values (tree.path i) pos' item' ↔ pos' = pos ∧ item' = item := by
  have hnodup : (idsAll forest).Nodup := hdrawn.once.nodup_iff.mpr List.nodup_range
  have hi : i ∈ idsAll forest := by
    rw [hdrawn.once.mem_iff, List.mem_range]
    exact lt_size_of_path hpath
  obtain ⟨pos, above, nest, hat, rfl⟩ := Nest.exists_at hi
  obtain ⟨name, hname⟩ := Option.ne_none_iff_exists'.mp (mt path_eq_nil_iff.mpr hpath)
  obtain ⟨item, hshows, hleads⟩ := hs.exists_leads hown hat hname
  rw [← hdrawn.path_of_at hlists hat hname] at hleads
  refine ⟨pos, above, nest, item, hat, rfl, hshows, ?_⟩
  intro pos' item'
  constructor
  · intro h
    obtain ⟨above', nest', name', hat', hname', hnames⟩ := hs.exists_at hown h
    rw [← hdrawn.path_of_at hlists hat' hname'] at hnames
    have hid := hunique nest'.id (hdrawn.lt_size hat'.mem) hnames.symm
    have hpos := hat'.unique hnodup hat hid
    subst hpos
    exact ⟨rfl, Option.some.inj (h.itemAt?.symm.trans hleads.itemAt?)⟩
  · rintro ⟨rfl, rfl⟩
    exact hleads

end Tree

end AdaptiveForm
