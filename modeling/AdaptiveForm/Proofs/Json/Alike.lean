import AdaptiveForm.Proofs.Field.Attribute
import Mathlib.Data.List.Forall2
import Mathlib.Data.List.Nodup

/-!
# Values up to the order of keys

Two values are alike if they differ in nothing but the order in which objects have their keys, at
every depth.  Objects are compared by their keys and by what is found under each of them
(`Entries.Agree`), so that setting and removing keys on both sides keeps them alike, wherever in the
objects the keys stand.
-/

namespace AdaptiveForm

/-- The values are the same up to the order of the keys of objects, at every depth. -/
inductive Json.Alike : Json → Json → Prop
  | same (value : Json) : Alike value value
  | array {items items' : List Json} (hlength : items.length = items'.length)
      (hitems : ∀ (i : Nat) (item item' : Json), items[i]? = some item → items'[i]? = some item' →
        Alike item item') : Alike (.array items) (.array items')
  | object {entries entries' : Entries}
      (hkeys : (Entries.keys entries).Perm (Entries.keys entries'))
      (hvalues : ∀ (key : String) (value value' : Json), Entries.get? entries key = some value →
        Entries.get? entries' key = some value' → Alike value value') :
      Alike (.object entries) (.object entries')

namespace Entries

/-- The keys are the same up to their order, and the values under each key are related. -/
structure Agree (R : Json → Json → Prop) (entries entries' : Entries) : Prop where
  keys : entries.keys.Perm entries'.keys
  values : ∀ key value value', entries.get? key = some value → entries'.get? key = some value' →
    R value value'

variable {R : Json → Json → Prop} {entries entries' : Entries}

theorem Agree.refl (hR : ∀ value, R value value) (entries : Entries) : Agree R entries entries where
  keys := .refl _
  values key value value' h h' := by
    cases h.symm.trans h'
    exact hR value

theorem Agree.get? (h : Agree R entries entries') (key : String) :
    Option.Rel R (entries.get? key) (entries'.get? key) := by
  have hmem : key ∈ entries.keys ↔ key ∈ entries'.keys := h.keys.mem_iff
  rw [mem_keys_iff, mem_keys_iff] at hmem
  cases hget : entries.get? key with
  | none =>
    cases hget' : entries'.get? key with
    | none => exact .none
    | some value' =>
      obtain ⟨value, hvalue⟩ := hmem.mpr ⟨value', hget'⟩
      cases hget.symm.trans hvalue
  | some value =>
    obtain ⟨value', hget'⟩ := hmem.mp ⟨value, hget⟩
    rw [hget']
    exact .some (h.values key value value' hget hget')

theorem Agree.get?_eq (h : Agree Eq entries entries') (key : String) :
    entries'.get? key = entries.get? key := by
  have hfound := h.get? key
  generalize entries.get? key = found, entries'.get? key = found' at hfound
  cases hfound with
  | none => rfl
  | some hv => rw [hv]

theorem Agree.bind_get? {α : Type} (h : Agree R entries entries') {f : Json → Option α}
    (hf : ∀ value value', R value value' → f value' = f value) (key : String) :
    (entries'.get? key).bind f = (entries.get? key).bind f := by
  have hfound := h.get? key
  generalize entries.get? key = found, entries'.get? key = found' at hfound
  cases hfound with
  | none => rfl
  | some hv => exact hf _ _ hv

theorem Agree.contains (h : Agree R entries entries') (key : String) :
    entries'.contains key = entries.contains key := by
  have hfound := h.bind_get? (f := fun _ => some ()) (fun _ _ _ => rfl) key
  rw [contains_eq_isSome, contains_eq_isSome]
  cases hget : entries.get? key <;> cases hget' : entries'.get? key <;>
    simp [hget, hget'] at hfound ⊢

theorem Agree.insert (h : Agree R entries entries') (key : String) {value value' : Json}
    (hv : R value value') : Agree R (entries.insert key value) (entries'.insert key value') where
  keys := by
    rw [keys_insert_eq, keys_insert_eq]
    by_cases hkey : key ∈ entries.keys
    · rw [if_pos hkey, if_pos (h.keys.mem_iff.mp hkey)]
      exact h.keys
    · rw [if_neg hkey, if_neg (mt h.keys.mem_iff.mpr hkey)]
      exact h.keys.append_right _
  values k v v' hget hget' := by
    by_cases hk : k = key
    · rw [hk, get?_insert_self, Option.some.injEq] at hget hget'
      rwa [← hget, ← hget']
    · rw [get?_insert_of_ne _ _ hk] at hget hget'
      exact h.values k v v' hget hget'

theorem Agree.erase (h : Agree R entries entries') (key : String) :
    Agree R (entries.erase key) (entries'.erase key) where
  keys := by
    rw [keys_erase, keys_erase]
    exact h.keys.filter _
  values k v v' hget hget' := by
    by_cases hk : k = key
    · rw [hk, get?_erase_self] at hget
      cases hget
    · rw [get?_erase_of_ne _ hk] at hget hget'
      exact h.values k v v' hget hget'

/-- Two different keys may be set in either order. -/
theorem insert_comm (hR : ∀ value, R value value) (entries : Entries) {key key' : String}
    (hne : key ≠ key') (value value' : Json) :
    Agree R ((entries.insert key value).insert key' value')
      ((entries.insert key' value').insert key value) where
  keys := by
    simp only [keys_insert_eq]
    by_cases h : key ∈ entries.keys <;> by_cases h' : key' ∈ entries.keys <;>
      simp [h, h', hne, hne.symm, List.perm_append_left_iff, List.Perm.swap]
  values k v v' hget hget' := by
    have heq : ((entries.insert key value).insert key' value').get? k =
        ((entries.insert key' value').insert key value).get? k := by
      by_cases hk : k = key
      · rw [hk, get?_insert_of_ne _ _ hne, get?_insert_self, get?_insert_self]
      · by_cases hk' : k = key'
        · rw [hk', get?_insert_self, get?_insert_of_ne _ _ hne.symm, get?_insert_self]
        · rw [get?_insert_of_ne _ _ hk', get?_insert_of_ne _ _ hk, get?_insert_of_ne _ _ hk,
            get?_insert_of_ne _ _ hk']
    cases hget.symm.trans (heq.trans hget')
    exact hR v

theorem Agree.of_forall₂
    (h : List.Forall₂ (fun entry entry' : String × Json => entry.1 = entry'.1 ∧ R entry.2 entry'.2)
      entries entries') : Agree R entries entries' := by
  induction h with
  | nil =>
    refine ⟨.refl _, ?_⟩
    intro _ value _ hget
    cases hget
  | @cons entry entry' entries entries' hentry _ ih =>
    obtain ⟨key, value⟩ := entry
    obtain ⟨key', value'⟩ := entry'
    obtain ⟨rfl, hv⟩ : key = key' ∧ R value value' := hentry
    refine ⟨ih.keys.cons key, ?_⟩
    intro k v v' hget hget'
    rw [Entries.get?, lookup_cons_ite] at hget hget'
    split_ifs at hget hget'
    · cases hget
      cases hget'
      exact hv
    · exact ih.values k v v' hget hget'

theorem Agree.of_perm (hnodup : entries.keys.Nodup) (h : entries.Perm entries') :
    Agree Eq entries entries' where
  keys := h.map _
  values key value value' hget hget' := by
    have hmem := mem_of_get? _ hget
    have hmem' := h.symm.mem_iff.mp (mem_of_get? _ hget')
    have hinj := List.inj_on_of_nodup_map hnodup hmem hmem' rfl
    exact congrArg Prod.snd hinj

end Entries

namespace Json

variable {value value' value'' : Json}

theorem alike_object {entries entries' : Entries} :
    Alike (.object entries) (.object entries') ↔ Entries.Agree Alike entries entries' := by
  constructor
  · intro h
    cases h with
    | same => exact .refl .same entries
    | object hkeys hvalues => exact ⟨hkeys, hvalues⟩
  · rintro ⟨hkeys, hvalues⟩
    exact .object hkeys hvalues

theorem alike_array {items items' : List Json} :
    Alike (.array items) (.array items') ↔ List.Forall₂ Alike items items' := by
  rw [List.forall₂_iff_get]
  constructor
  · intro h
    cases h with
    | same => exact ⟨rfl, fun _ _ _ => .same _⟩
    | array hlength hitems =>
      refine ⟨hlength, fun i hi hi' => ?_⟩
      exact hitems i _ _ (List.getElem?_eq_getElem hi) (List.getElem?_eq_getElem hi')
  · rintro ⟨hlength, hitems⟩
    refine .array hlength fun i item item' hitem hitem' => ?_
    obtain ⟨hi, rfl⟩ := List.getElem?_eq_some_iff.mp hitem
    obtain ⟨hi', rfl⟩ := List.getElem?_eq_some_iff.mp hitem'
    exact hitems i hi hi'

theorem Alike.trans (h : Alike value value') (h' : Alike value' value'') : Alike value value'' := by
  induction h generalizing value'' with
  | same => exact h'
  | @array items items' hlength hitems ih =>
    cases h' with
    | same => exact .array hlength hitems
    | @array _ items'' hlength' hitems' =>
      refine .array (hlength.trans hlength') ?_
      intro i item item'' hitem hitem''
      obtain ⟨item', hitem'⟩ : ∃ item', items'[i]? = some item' := by
        have hi := (List.getElem?_eq_some_iff.mp hitem).1
        exact ⟨_, List.getElem?_eq_getElem (hlength ▸ hi)⟩
      exact ih i item item' hitem hitem' (hitems' i item' item'' hitem' hitem'')
  | @object entries entries' hkeys hvalues ih =>
    cases h' with
    | same => exact .object hkeys hvalues
    | @object _ entries'' hkeys' hvalues' =>
      refine .object (hkeys.trans hkeys') ?_
      intro key value value'' hvalue hvalue''
      obtain ⟨value', hvalue'⟩ := (Entries.mem_keys_iff entries').mp
        (hkeys.mem_iff.mp (Entries.mem_keys_of_get? entries hvalue))
      exact ih key value value' hvalue hvalue' (hvalues' key value' value'' hvalue' hvalue'')

theorem Alike.asString? (h : Alike value value') : value'.asString? = value.asString? := by
  cases h <;> rfl

theorem Alike.key? (h : Alike value value') : value'.key? = value.key? := by
  cases h <;> rfl

theorem Alike.get? (h : Alike value value') (key : String) :
    Option.Rel Alike (value.get? key) (value'.get? key) := by
  cases h with
  | same =>
    cases value.get? key with
    | none => exact .none
    | some v => exact .some (.same v)
  | array => exact .none
  | object hkeys hvalues => exact Entries.Agree.get? ⟨hkeys, hvalues⟩ key

end Json

theorem Entries.Agree.trans {entries entries' entries'' : Entries}
    (h : Agree Json.Alike entries entries') (h' : Agree Json.Alike entries' entries'') :
    Agree Json.Alike entries entries'' :=
  Json.alike_object.mp ((Json.alike_object.mpr h).trans (Json.alike_object.mpr h'))

end AdaptiveForm
