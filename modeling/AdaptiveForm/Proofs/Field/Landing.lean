import AdaptiveForm.Proofs.Field.Expansion

/-!
# Where dotted columns come to lie

Expanding moves one dotted column after the other, and each move creates, extends or replaces what
lies on its way.  If no column's path leads through the place of another, then a value that has been
put at its place stays there while the others are moved, `getPath?_foldl_self`, and nothing else of
the field is lost: attributes into which no column leads keep their values and their order
(`filter_expand`), and so does, inside the others, every place apart from the paths of the columns
(`expand_keeps_columns`).
-/

namespace AdaptiveForm

namespace Field

open AdaptiveForm.Text

variable {field : Field} {keys : List String}

def dottedKeys (field : Field) : List String :=
  (Entries.keys field).filter isDotted

/-- Whether an attribute is left alone by expanding: it is no dotted column itself, and none leads
into it. -/
def isLeftAlone (field : Field) (name : String) : Bool :=
  !isDotted name && field.dottedKeys.all fun key => decide ((split '.' key).head? ≠ some name)

theorem isDotted_of_mem_dottedKeys {key : String} (h : key ∈ field.dottedKeys) :
    isDotted key = true :=
  (List.mem_filter.mp h).2

/-! ### The columns themselves -/

/-- **A dotted column arrives at its place**, and what is put elsewhere afterwards does not move
it. -/
theorem getPath?_foldl_self {key : String} {value : Json}
    (hkeys : ∀ k ∈ keys, isDotted k = true) (hapart : Apart keys) (hkey : key ∈ keys)
    (hvalue : field.get? key = some value) :
    getPath? (keys.foldl expandKey field) (split '.' key) = some value := by
  induction keys generalizing field with
  | nil => cases hkey
  | cons k keys ih =>
    have hdotted := hkeys key hkey
    rw [List.foldl_cons]
    by_cases hk : k = key
    · -- `key` is moved now, and afterwards it is a column no more
      subst hk
      obtain ⟨head, rest, hsplit, hrest, hhead⟩ := split_of_isDotted hdotted
      have hgone : (field.expandKey k).get? k = none := by
        have hne : k ≠ head := by
          rintro rfl
          rw [hhead] at hdotted
          cases hdotted
        rw [expandKey_eq hvalue hsplit hrest, Entries.get?_insert_of_ne _ _ hne,
          Entries.get?_erase_self]
      have hlater : ∀ k' ∈ keys, (field.expandKey k).get? k' = none ∨
          ¬ split '.' k' <+: split '.' k ∧ ¬ split '.' k <+: split '.' k' := by
        intro k' hk'
        by_cases hne : k' = k
        · exact .inl (hne ▸ hgone)
        · have hmem := List.mem_cons_of_mem k hk'
          refine .inr ⟨fun hprefix => hne ?_, fun hprefix => hne ?_⟩
          · exact split_injective (hapart k' hmem k hkey hprefix)
          · exact (split_injective (hapart k hkey k' hmem hprefix)).symm
      rw [getPath?_foldl_of_apart (by simpa [hsplit] using hhead)
        (fun k' hk' => hkeys k' (List.mem_cons_of_mem _ hk')) hlater, expandKey_of_get? hvalue]
      exact getPath?_insertPath_self (by simp [hsplit]) _ _
    · rw [List.forall_mem_cons] at hkeys
      refine ih hkeys.2 ?_ (List.mem_of_ne_of_mem (Ne.symm hk) hkey) ?_
      · intro k' hk' k'' hk''
        exact hapart k' (List.mem_cons_of_mem _ hk') k'' (List.mem_cons_of_mem _ hk'')
      · rw [get?_expandKey hkeys.1 (Ne.symm hk) (head?_split_ne_of_isDotted hkeys.1 hdotted)]
        exact hvalue

/-! ### Everything else -/

theorem filter_expandKey {p : String → Bool} {key : String} (hdotted : isDotted key = true)
    (hkey : p key = false) (hhead : ∀ head, (split '.' key).head? = some head → p head = false) :
    List.filter (fun entry => p entry.1) (field.expandKey key) =
      List.filter (fun entry => p entry.1) field := by
  cases hvalue : field.get? key with
  | none => rw [expandKey_of_none hvalue]
  | some value =>
    obtain ⟨head, rest, hsplit, hrest, -⟩ := split_of_isDotted hdotted
    have hp : p head = false := hhead head (by rw [hsplit]; rfl)
    rw [expandKey_eq hvalue hsplit hrest, Entries.filter_insert _ _ hp,
      Entries.filter_erase _ hkey]

/-- **Attributes that are left alone keep their values and their order.** -/
theorem filter_expand (field : Field) :
    List.filter (fun entry => isLeftAlone field entry.1) field.expand =
      List.filter (fun entry => isLeftAlone field entry.1) field := by
  rw [expand]
  refine List.foldlRecOn (motive := fun field' : Field =>
    List.filter (fun entry => isLeftAlone field entry.1) field' =
      List.filter (fun entry => isLeftAlone field entry.1) field) _ _ rfl ?_
  intro field' hfield' key hkey
  have hdotted := isDotted_of_mem_dottedKeys hkey
  rw [filter_expandKey hdotted, hfield']
  · simp [isLeftAlone, hdotted]
  · intro head hhead
    rw [isLeftAlone, Bool.and_eq_false_iff]
    right
    rw [List.all_eq_false]
    exact ⟨key, hkey, by simpa using hhead⟩

theorem expand_eq_self (h : ∀ key ∈ Entries.keys field, isDotted key = false) :
    field.expand = field := by
  have hnone : (Entries.keys field).filter isDotted = [] :=
    List.filter_eq_nil_iff.mpr fun key hkey => by simp [h key hkey]
  rw [expand, hnone]
  rfl

/-- **Expanding loses nothing.** If no dotted column leads through the place of another, each of
them is found at its place afterwards.  The attributes into which none leads stand there with their
values, in their order; inside an attribute without dots every place that lies neither on the path
of a column nor behind its end holds what it held.  No attribute has a dot in its name any more, so
that expanding once more changes nothing. -/
theorem expand_keeps_columns (field : Field) (h : Apart field.dottedKeys) :
    (∀ key value, isDotted key = true → field.get? key = some value →
      getPath? field.expand (split '.' key) = some value) ∧
    List.filter (fun entry => isLeftAlone field entry.1) field.expand =
      List.filter (fun entry => isLeftAlone field entry.1) field ∧
    (∀ head rest, isDotted head = false →
      (∀ key ∈ field.dottedKeys,
        ¬ split '.' key <+: head :: rest ∧ ¬ head :: rest <+: split '.' key) →
      getPath? field.expand (head :: rest) = getPath? field (head :: rest)) ∧
    (∀ name ∈ Entries.keys field.expand, '.' ∉ name.toList) ∧
    field.expand.expand = field.expand := by
  have hdotted : ∀ key ∈ field.dottedKeys, isDotted key = true :=
    fun _ hkey => isDotted_of_mem_dottedKeys hkey
  refine ⟨?_, filter_expand field, ?_, ?_, expand_eq_self fun _ => isDotted_of_mem_keys_expand⟩
  · intro key value hkey hvalue
    have hmem : key ∈ field.dottedKeys :=
      List.mem_filter.mpr ⟨Entries.mem_keys_of_get? _ hvalue, hkey⟩
    exact getPath?_foldl_self hdotted h hmem hvalue
  · intro head rest hhead hplace
    exact getPath?_foldl_of_apart (by simpa using hhead) hdotted
      fun key hkey => .inr (hplace key hkey)
  · intro name hname hdot
    have hnone := isDotted_of_mem_keys_expand hname
    rw [isDotted, Bool.eq_false_iff, ne_eq, List.contains_iff_mem] at hnone
    exact hnone hdot

/-- A text that gives way to an object, and columns that go into objects which are there already. -/
def contactRow : Field := [
  ("name", .string "phone"),
  ("label", .string "Phone"),
  ("label.value", .string "Mobile"),
  ("messages", .object [("length", .object [("min", .string "short")])]),
  ("messages.length.max", .string "long"),
  ("messages.pattern", .string "digits"),
  ("visible", .bool true)]

theorem expand_keeps_columns_contact :
    Apart contactRow.dottedKeys ∧
    getPath? contactRow.expand ["label", "value"] = some (.string "Mobile") ∧
    getPath? contactRow.expand ["messages", "length", "max"] = some (.string "long") ∧
    List.filter (fun entry => isLeftAlone contactRow entry.1) contactRow.expand =
      [("name", .string "phone"), ("visible", .bool true)] ∧
    getPath? contactRow.expand ["messages", "length", "min"] = some (.string "short") ∧
    '.' ∉ "messages".toList ∧
    contactRow.expand.expand = contactRow.expand := by
  have hapart : Apart contactRow.dottedKeys := by decide +kernel
  obtain ⟨hlanded, hleft, hplaces, hnames, honce⟩ := expand_keeps_columns contactRow hapart
  have hmin : ∀ key ∈ contactRow.dottedKeys,
      ¬ split '.' key <+: ["messages", "length", "min"] ∧
      ¬ ["messages", "length", "min"] <+: split '.' key := by
    decide +kernel
  refine ⟨hapart, hlanded "label.value" _ (by decide) rfl,
    hlanded "messages.length.max" _ (by decide) rfl, hleft.trans rfl, ?_, ?_, honce⟩
  · exact (hplaces "messages" ["length", "min"] (by decide) hmin).trans rfl
  · exact hnames "messages" (by decide +kernel)

end Field

end AdaptiveForm
