import AdaptiveForm.Proofs.Field.Finishing
import AdaptiveForm.Proofs.Json.Alike

/-!
# Fields whose columns stand in another order

Up to the expansion of dotted columns no step looks at the order of the columns: the same columns in
another order give the same value under every key (`agree_normalizeRow`).  Dotted columns are
expanded one after the other, and two of them may change places if neither of their paths leads
through the place of the other, `expandKey_comm`; what comes out is alike, as the objects on the way
get their keys in another order.  Option lists and references are the only attributes whose order of
keys could be seen afterwards, since they are written into texts; so no dotted column may lead into
these.
-/

namespace AdaptiveForm.Field

open AdaptiveForm.Text
open Entries (Agree)
open Json (Alike)

/-! ### Places inside nested objects -/

/-- What stands under the first part of a path when a value has been put at its place. -/
def placed (target : Entries) (head : String) (rest : List String) (value : Json) : Json :=
  if rest = [] then value else .object (insertPath (entriesAt target head) rest value)

theorem insertPath_eq_insert (target : Entries) (head : String) (rest : List String)
    (value : Json) :
    insertPath target (head :: rest) value =
      target.insert head (placed target head rest value) := by
  by_cases h : rest = []
  · rw [placed, if_pos h, h, insertPath]
  · rw [placed, if_neg h, insertPath_cons _ _ h]

theorem entriesAt_of_get?_eq {target target' : Entries} {key : String}
    (h : target'.get? key = target.get? key) : entriesAt target' key = entriesAt target key := by
  rw [entriesAt, entriesAt, h]

theorem entriesAt_insert_self (target : Entries) (key : String) (entries : Entries) :
    entriesAt (target.insert key (.object entries)) key = entries := by
  rw [entriesAt, Entries.get?_insert_self]

theorem agree_entriesAt {target target' : Entries} (h : Agree Alike target target')
    (key : String) : Agree Alike (entriesAt target key) (entriesAt target' key) := by
  have hfound := h.get? key
  unfold entriesAt
  generalize target.get? key = found, target'.get? key = found' at hfound
  cases hfound with
  | none => exact .refl .same []
  | some hv =>
    cases hv with
    | same => exact .refl .same _
    | array => exact .refl .same []
    | object hkeys hvalues => exact ⟨hkeys, hvalues⟩

theorem agree_insertPath (path : List String) {value value' : Json} (hv : Alike value value') :
    ∀ {target target' : Entries}, Agree Alike target target' →
      Agree Alike (insertPath target path value) (insertPath target' path value') := by
  induction path with
  | nil => exact id
  | cons head rest ih =>
    intro target target' h
    rw [insertPath_eq_insert, insertPath_eq_insert]
    refine h.insert head ?_
    rw [placed, placed]
    split_ifs
    · exact hv
    · exact Json.alike_object.mpr (ih (agree_entriesAt h head))

/-- **Two values may be put at their places in either order**, if neither place lies in the
other. -/
theorem insertPath_comm {path path' : List String} (h : ¬ path <+: path') (h' : ¬ path' <+: path)
    (target : Entries) (value value' : Json) :
    Agree Alike (insertPath (insertPath target path value) path' value')
      (insertPath (insertPath target path' value') path value) := by
  induction path generalizing path' target with
  | nil => exact absurd List.nil_prefix h
  | cons head rest ih =>
    cases path' with
    | nil => exact absurd List.nil_prefix h'
    | cons head' rest' =>
      by_cases hhead : head = head'
      · -- both places lie in the same object
        subst hhead
        rw [List.cons_prefix_cons, and_iff_right rfl] at h h'
        have hrest : rest ≠ [] := fun hnil => h (hnil ▸ List.nil_prefix)
        have hrest' : rest' ≠ [] := fun hnil => h' (hnil ▸ List.nil_prefix)
        rw [insertPath_cons _ _ hrest, insertPath_cons _ _ hrest', insertPath_cons _ _ hrest',
          insertPath_cons _ _ hrest, entriesAt_insert_self, entriesAt_insert_self,
          Entries.insert_insert, Entries.insert_insert]
        refine (Agree.refl .same target).insert head ?_
        exact Json.alike_object.mpr (ih h h' _)
      · have hplaced : ∀ {head head' : String}, head ≠ head' → ∀ rest value value',
            placed (target.insert head value) head' rest value' =
              placed target head' rest value' := by
          intro head head' hne rest value value'
          rw [placed, placed, entriesAt_of_get?_eq (Entries.get?_insert_of_ne _ _ hne.symm)]
        rw [insertPath_eq_insert, insertPath_eq_insert, insertPath_eq_insert, insertPath_eq_insert,
          hplaced hhead, hplaced (Ne.symm hhead)]
        exact Entries.insert_comm .same target hhead _ _

theorem insertPath_erase (target : Entries) {key head : String} (h : head ≠ key)
    (rest : List String) (value : Json) :
    insertPath (target.erase key) (head :: rest) value =
      (insertPath target (head :: rest) value).erase key := by
  rw [insertPath_eq_insert, insertPath_eq_insert, Entries.erase_insert_of_ne _ h, placed, placed,
    entriesAt_of_get?_eq (Entries.get?_erase_of_ne _ h)]

/-! ### Dotted columns -/

variable {field field' : Field}

theorem expandKey_of_none {key : String} (h : field.get? key = none) :
    field.expandKey key = field := by
  rw [expandKey, h]

theorem expandKey_of_get? {key : String} {value : Json} (h : field.get? key = some value) :
    field.expandKey key = insertPath (Entries.erase field key) (split '.' key) value := by
  rw [expandKey, h]

theorem get?_expandKey {key k : String} (hkey : isDotted key = true) (hne : k ≠ key)
    (hhead : (split '.' key).head? ≠ some k) : (field.expandKey key).get? k = field.get? k := by
  cases hvalue : field.get? key with
  | none => rw [expandKey_of_none hvalue]
  | some value =>
    obtain ⟨head, rest, hsplit, hrest, -⟩ := split_of_isDotted hkey
    rw [hsplit, List.head?_cons, ne_eq, Option.some.injEq] at hhead
    rw [expandKey_eq hvalue hsplit hrest, Entries.get?_insert_of_ne _ _ (Ne.symm hhead),
      Entries.get?_erase_of_ne _ hne]

theorem agree_expandKey (h : Agree Alike field field') (key : String) :
    Agree Alike (field.expandKey key) (field'.expandKey key) := by
  have hfound := h.get? key
  unfold expandKey
  generalize field.get? key = found, field'.get? key = found' at hfound
  cases hfound with
  | none => exact h
  | some hv => exact agree_insertPath _ hv (h.erase key)

/-- **Two dotted keys may be expanded in either order**, if neither path leads through the place of
the other. -/
theorem expandKey_comm {key key' : String} (hkey : isDotted key = true)
    (hkey' : isDotted key' = true) (h : ¬ split '.' key <+: split '.' key')
    (h' : ¬ split '.' key' <+: split '.' key) (field : Field) :
    Agree Alike ((field.expandKey key).expandKey key') ((field.expandKey key').expandKey key) := by
  obtain ⟨head, rest, hsplit, hrest, hhead⟩ := split_of_isDotted hkey
  obtain ⟨head', rest', hsplit', hrest', hhead'⟩ := split_of_isDotted hkey'
  have hne : key ≠ key' := by
    rintro rfl
    exact h List.prefix_rfl
  -- the objects into which the keys are moved have keys without dots
  have hapart : ∀ {key head : String}, isDotted key = true → isDotted head = false →
      head ≠ key := by
    rintro key head hkey hhead rfl
    rw [hhead] at hkey
    cases hkey
  have hget : (field.expandKey key).get? key' = field.get? key' := by
    refine get?_expandKey hkey hne.symm ?_
    rw [hsplit, List.head?_cons, ne_eq, Option.some.injEq]
    exact hapart hkey' hhead
  have hget' : (field.expandKey key').get? key = field.get? key := by
    refine get?_expandKey hkey' hne ?_
    rw [hsplit', List.head?_cons, ne_eq, Option.some.injEq]
    exact hapart hkey hhead'
  cases hvalue : field.get? key with
  | none =>
    rw [expandKey_of_none hvalue, expandKey_of_none (hget'.trans hvalue)]
    exact .refl .same _
  | some value =>
    cases hvalue' : field.get? key' with
    | none =>
      rw [expandKey_of_none hvalue', expandKey_of_none (hget.trans hvalue')]
      exact .refl .same _
    | some value' =>
      rw [expandKey_of_get? (hget.trans hvalue'), expandKey_of_get? (hget'.trans hvalue),
        expandKey_of_get? hvalue, expandKey_of_get? hvalue']
      rw [hsplit, hsplit'] at h h' ⊢
      rw [← insertPath_erase _ (hapart hkey' hhead), ← insertPath_erase _ (hapart hkey hhead'),
        Entries.erase_comm field key' key]
      exact insertPath_comm h h' _ value value'

/-- No two of the keys have paths of which one leads through the place of the other. -/
def Apart (keys : List String) : Prop :=
  ∀ key ∈ keys, ∀ key' ∈ keys, split '.' key <+: split '.' key' → split '.' key = split '.' key'

instance (keys : List String) : Decidable (Apart keys) :=
  List.decidableBAll (fun key => ∀ key' ∈ keys, split '.' key <+: split '.' key' →
    split '.' key = split '.' key') keys

theorem split_injective {key key' : String} (h : split '.' key = split '.' key') : key = key' := by
  rw [← intercalate_split key, ← intercalate_split key', h]

theorem agree_foldl_expandKey (keys : List String) : ∀ {field field' : Field},
    Agree Alike field field' →
      Agree Alike (keys.foldl expandKey field) (keys.foldl expandKey field') := by
  induction keys with
  | nil => exact id
  | cons key keys ih => exact fun h => ih (agree_expandKey h key)

/-- **Dotted keys may be expanded in any order.** -/
theorem agree_foldl_of_perm {keys keys' : List String} (hperm : keys.Perm keys')
    (hdotted : ∀ key ∈ keys, isDotted key = true) (hapart : Apart keys) :
    ∀ {field field' : Field}, Agree Alike field field' →
      Agree Alike (keys.foldl expandKey field) (keys'.foldl expandKey field') := by
  induction hperm with
  | nil => exact id
  | cons key _ ih =>
    intro field field' h
    refine ih (fun k hk => hdotted k (List.mem_cons_of_mem _ hk)) ?_ (agree_expandKey h key)
    intro k hk k' hk'
    exact hapart k (List.mem_cons_of_mem _ hk) k' (List.mem_cons_of_mem _ hk')
  | swap key key' keys =>
    intro field field' h
    have hboth := agree_expandKey (agree_expandKey h key') key
    refine agree_foldl_expandKey keys ?_
    by_cases hsplit : split '.' key' = split '.' key
    · rw [split_injective hsplit] at hboth ⊢
      exact hboth
    · have hmem' : key' ∈ key' :: key :: keys := List.mem_cons_self
      have hmem : key ∈ key' :: key :: keys := List.mem_cons_of_mem _ List.mem_cons_self
      refine hboth.trans (expandKey_comm (hdotted _ hmem') (hdotted _ hmem) ?_ ?_ field')
      · exact fun hprefix => hsplit (hapart _ hmem' _ hmem hprefix)
      · exact fun hprefix => hsplit (hapart _ hmem _ hmem' hprefix).symm
  | trans hfirst _ ih ih' =>
    intro field field' h
    refine (ih hdotted hapart h).trans (ih' ?_ ?_ (.refl .same field'))
    · exact fun key hkey => hdotted key (hfirst.mem_iff.mpr hkey)
    · exact fun key hkey key' hkey' =>
        hapart key (hfirst.mem_iff.mpr hkey) key' (hfirst.mem_iff.mpr hkey')

/-! ### Before dotted columns are expanded -/

theorem agree_rename (h : Agree Eq field field') (rename : Rename) :
    Agree Eq (field.rename rename) (field'.rename rename) := by
  rw [Field.rename, Field.rename, h.get?_eq]
  split_ifs
  · exact h
  · split
    · split_ifs
      · exact (h.erase _).insert _ rfl
      · exact h
    · exact h

/-- **A row is normalized to the same values** in whatever order its columns stand. -/
theorem agree_normalizeRow {row row' : Entries} (hnodup : row.keys.Nodup) (hperm : row.Perm row')
    (settings : Settings) :
    Agree Eq (normalizeRow settings row) (normalizeRow settings row') := by
  have hkeys : (stripBlanks row).keys.Sublist row.keys := List.filter_sublist.map _
  have hstripped : Agree Eq (stripBlanks row) (stripBlanks row') :=
    .of_perm (hnodup.sublist hkeys) (hperm.filter _)
  rw [normalizeRow, normalizeRow, normalizeNames, normalizeNames]
  generalize settings.mappings.names = names
  have hinserted := hstripped.insert "constraintMessages"
    (Eq.refl (Json.object [("required", .string settings.requiredMessage)]))
  revert hinserted
  generalize Entries.insert (stripBlanks row) _ _ = field,
    Entries.insert (stripBlanks row') _ _ = field'
  intro hfields
  induction names generalizing field field' with
  | nil => exact hfields
  | cons rename names ih => exact ih _ _ (agree_rename hfields rename)

theorem type?_eq (h : Agree Eq field field') : field'.type? = field.type? := by
  rw [type?, type?, h.get?_eq]

theorem agree_applySubmit (h : Agree Eq field field') (submission : Submission) :
    Agree Eq (field.applySubmit submission) (field'.applySubmit submission) := by
  rw [applySubmit, applySubmit, type?_eq h]
  split_ifs
  · rw [setEvent, setEvent, insertPath_eq_insert, insertPath_eq_insert, placed, placed,
      entriesAt_of_get?_eq (h.get?_eq "events")]
    exact h.insert _ rfl
  · exact h

theorem agree_mapType (h : Agree Eq field field') (mappings : Mappings) :
    Agree Eq (field.mapType mappings) (field'.mapType mappings) := by
  rw [mapType, mapType, type?_eq h]
  split
  · exact h.insert _ rfl
  · exact h

/-! ### Expanding -/

/-- The attributes whose values are written into texts. -/
def optionKeys : List String := ["enum", "enumNames", "enumRef"]

/-- The order of the dotted columns does not matter: no path leads through the place of another, and
none into an attribute whose value is written into a text. -/
structure Untangled (field : Field) : Prop where
  apart : Apart ((Entries.keys field).filter isDotted)
  options : ∀ key ∈ (Entries.keys field).filter isDotted, ∀ option ∈ optionKeys,
    (split '.' key).head? ≠ some option

instance (field : Field) : Decidable (Untangled field) :=
  decidable_of_iff (Apart ((Entries.keys field).filter isDotted) ∧
      ∀ key ∈ (Entries.keys field).filter isDotted, ∀ option ∈ optionKeys,
        (split '.' key).head? ≠ some option)
    ⟨fun h => ⟨h.1, h.2⟩, fun h => ⟨h.apart, h.options⟩⟩

theorem get?_expand (h : Untangled field) {option : String} (hoption : option ∈ optionKeys) :
    field.expand.get? option = field.get? option := by
  rw [expand]
  refine List.foldlRecOn (motive := fun field' : Field => field'.get? option = field.get? option)
    _ _ rfl ?_
  intro field' hfield' key hkey
  have hne : ∀ option ∈ optionKeys, isDotted option = false := by decide
  have hdotted := (List.mem_filter.mp hkey).2
  rw [get?_expandKey hdotted ?_ (h.options key hkey option hoption)]
  · exact hfield'
  · rintro rfl
    rw [hne _ hoption] at hdotted
    cases hdotted

theorem filter_isDotted_insert {key : String} (hkey : isDotted key = false) (value : Json) :
    (Entries.keys (Entries.insert field key value)).filter isDotted =
      (Entries.keys field).filter isDotted := by
  rw [Entries.keys_insert_eq]
  split_ifs
  · rfl
  · rw [List.filter_append, List.filter_cons, hkey]
    exact List.append_nil _

theorem Untangled.congr (h : Untangled field) (hkeys : (Entries.keys field').filter isDotted =
    (Entries.keys field).filter isDotted) : Untangled field' :=
  ⟨hkeys ▸ h.apart, hkeys ▸ h.options⟩

theorem Untangled.applySubmit (h : Untangled field) (submission : Submission) :
    Untangled (field.applySubmit submission) := by
  rw [Field.applySubmit]
  split_ifs
  · exact h.congr (filter_isDotted_insert (by decide) _)
  · exact h

theorem Untangled.mapType (h : Untangled field) (mappings : Mappings) :
    Untangled (field.mapType mappings) := by
  rw [Field.mapType]
  split
  · exact h.congr (filter_isDotted_insert (by decide) _)
  · exact h

theorem Untangled.of_agree {R : Json → Json → Prop} (h : Untangled field)
    (hagree : Agree R field field') : Untangled field' := by
  have hmem : ∀ key, key ∈ (Entries.keys field').filter isDotted ↔
      key ∈ (Entries.keys field).filter isDotted := fun key =>
    (hagree.keys.filter isDotted).mem_iff.symm
  refine ⟨?_, ?_⟩
  · intro key hkey key' hkey'
    exact h.apart key ((hmem key).mp hkey) key' ((hmem key').mp hkey')
  · exact fun key hkey => h.options key ((hmem key).mp hkey)

/-- The fields are alike, and what is written into texts is the same. -/
structure Matches (field field' : Field) : Prop where
  agree : Agree Alike field field'
  options : ∀ option ∈ optionKeys, field'.get? option = field.get? option

/-- **Fields with the same values are expanded to fields that match.** -/
theorem matches_expand (h : Agree Eq field field') (hfield : Untangled field) :
    Matches field.expand field'.expand where
  agree := by
    have halike : Agree Alike field field' := ⟨h.keys, fun key value value' hv hv' =>
      h.values key value value' hv hv' ▸ .same value⟩
    exact agree_foldl_of_perm (h.keys.filter isDotted) (fun key hkey => (List.mem_filter.mp hkey).2)
      hfield.apart halike
  options option hoption := by
    rw [get?_expand (hfield.of_agree h) hoption, get?_expand hfield hoption, h.get?_eq]

/-! ### After dotted columns are expanded -/

theorem Matches.insert (h : Matches field field') (key : String) (value : Json) :
    Matches (Entries.insert field key value) (Entries.insert field' key value) where
  agree := h.agree.insert key (.same value)
  options option hoption := by
    by_cases hkey : option = key
    · rw [hkey, Entries.get?_insert_self, Entries.get?_insert_self]
    · rw [Entries.get?_insert_of_ne _ _ hkey, Entries.get?_insert_of_ne _ _ hkey]
      exact h.options option hoption

theorem Matches.setEvent (h : Matches field field') (event expression : String) :
    Matches (field.setEvent event expression) (field'.setEvent event expression) where
  agree := agree_insertPath _ (.same _) h.agree
  options option hoption := by
    have hne : ∀ option ∈ optionKeys, option ≠ "events" := by decide
    rw [get?_setEvent (hne option hoption), get?_setEvent (hne option hoption)]
    exact h.options option hoption

theorem Matches.splitValues (h : Matches field field') {key : String} (hkey : key ∈ optionKeys) :
    Matches (field.splitValues key) (field'.splitValues key) := by
  rw [Field.splitValues, Field.splitValues, h.options key hkey]
  split
  · exact h.insert _ _
  · exact h

theorem Matches.applyOptionsReference (h : Matches field field') :
    Matches field.applyOptionsReference field'.applyOptionsReference := by
  have hname : field'.name? = field.name? := h.agree.bind_get? (fun _ _ hv => hv.key?) "name"
  have hprojections : field'.projections = field.projections := by
    rw [projections, projections]
    apply List.filterMap_congr
    intro key hkey
    have hoption : key ∈ optionKeys := List.mem_append_left ["enumRef"] hkey
    rw [projection?, projection?, h.options key hoption]
  rw [Field.applyOptionsReference, Field.applyOptionsReference, hname, hprojections,
    h.options "enumRef" (by decide)]
  split
  · exact h
  · dsimp only
    split
    · exact h.setEvent _ _
    · exact (h.setEvent _ _).setEvent _ _

theorem isRequired_eq (h : Agree Alike field field') : field'.isRequired = field.isRequired := by
  have hfound := h.get? "required"
  unfold isRequired
  generalize field.get? "required" = found, field'.get? "required" = found' at hfound
  cases hfound with
  | none => rfl
  | some hv => cases hv <;> rfl

theorem agree_clearPanelName (h : Agree Alike field field') :
    Agree Alike field.clearPanelName field'.clearPanelName := by
  have htype : field'.type? = field.type? := h.bind_get? (fun _ _ hv => hv.asString?) "fieldType"
  have hown : Entries.contains field' "type" = Entries.contains field "type" := h.contains "type"
  rw [clearPanelName, clearPanelName, htype, hown]
  split_ifs
  · exact h.insert "name" (.same _)
  · exact h

/-- **The order of the columns does not matter for a field**: what is finished from the same values
is alike. -/
theorem agree_build (h : Agree Eq field field') (hfield : Untangled field) (settings : Settings) :
    Agree Alike (field.build settings) (field'.build settings) := by
  have htyped := agree_mapType (agree_applySubmit h settings.submission) settings.mappings
  have huntangled := (hfield.applySubmit settings.submission).mapType settings.mappings
  have hexpanded := matches_expand htyped huntangled
  have henum : "enum" ∈ optionKeys := by decide
  have henumNames : "enumNames" ∈ optionKeys := by decide
  have hlisted := (hexpanded.splitValues henum).splitValues henumNames
  have hreferenced := hlisted.applyOptionsReference
  refine agree_clearPanelName ?_
  rw [coerceRequired, coerceRequired, isRequired_eq hreferenced.agree]
  exact hreferenced.agree.insert _ (.same _)

end AdaptiveForm.Field
