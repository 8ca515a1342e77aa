import AdaptiveForm.Form.Transform
import AdaptiveForm.Proofs.Field.Attribute
import AdaptiveForm.Proofs.Text.Split
import Mathlib.Logic.Relation

/-!
# What finishing a field leaves alone

A row is normalized and then finished.  Normalizing moves cells from column to column; finishing
sets a few attributes of its own and moves the cells of dotted columns to their places, which is
done in single steps (`FinishStep`, `finishes_build`).  So what both keep is what the steps keep,
`normalizeNames_induction` and `keeps_build`.

Three consequences: the type of a finished field is what the table makes of the one it had
(`type?_of_build`); an attribute that no column begins with, and that finishing does not set, is not
there afterwards (`Lacks.build`); and the value rule of a finished field was there before
(`inRules_of_build`).
-/

namespace AdaptiveForm.Field

open AdaptiveForm.Text

/-! ### Steps -/

/-- The attributes that finishing sets itself. -/
def finishedKeys : List String := ["events", "fieldType", "enum", "enumNames", "required", "name"]

/-- A step of finishing. -/
inductive FinishStep : Field → Field → Prop
  | event (field : Field) (event expression : String) :
      FinishStep field (field.setEvent event expression)
  | type (field : Field) (type : String) :
      FinishStep field (Entries.insert field "fieldType" (.string type))
  | expand (field : Field) {key : String} (h : isDotted key = true) :
      FinishStep field (field.expandKey key)
  | list (field : Field) {key : String} (h : key = "enum" ∨ key = "enumNames") (s : String) :
      FinishStep field (Entries.insert field key (.array (valueParts s)))
  | required (field : Field) (flag : Bool) :
      FinishStep field (Entries.insert field "required" (.bool flag))
  | nameless (field : Field) : FinishStep field (Entries.insert field "name" .null)

abbrev Finishes : Field → Field → Prop :=
  Relation.ReflTransGen FinishStep

variable {motive : Field → Prop} {field : Field}

theorem finishes_expand (field : Field) : Finishes field field.expand := by
  rw [expand]
  refine List.foldlRecOn _ _ .refl ?_
  intro field' h key hkey
  exact h.tail (.expand field' (List.mem_filter.mp hkey).2)

theorem finishes_splitValues (field : Field) {key : String} (h : key = "enum" ∨ key = "enumNames") :
    Finishes field (field.splitValues key) := by
  rw [splitValues]
  split
  · exact .single (.list field h _)
  · exact .refl

theorem finishes_applyOptionsReference (field : Field) :
    Finishes field field.applyOptionsReference := by
  rw [applyOptionsReference]
  split
  · exact .refl
  · dsimp only
    split
    · exact .single (.event field _ _)
    · exact .tail (.single (.event field _ _)) (.event _ _ _)

/-- **Finishing is done in these steps.** -/
theorem finishes_build (settings : Settings) (field : Field) :
    Finishes field (field.build settings) := by
  have hsubmit : Finishes field (field.applySubmit settings.submission) := by
    rw [applySubmit]
    split_ifs
    · exact .single (.event field _ _)
    · exact .refl
  have htype : ∀ field : Field, Finishes field (field.mapType settings.mappings) := by
    intro field
    rw [mapType]
    split
    · exact .single (.type field _)
    · exact .refl
  have hclear : ∀ field : Field, Finishes field field.clearPanelName := by
    intro field
    rw [clearPanelName]
    split_ifs
    · exact .single (.nameless field)
    · exact .refl
  have htyped := hsubmit.trans (htype _)
  have hexpanded := htyped.trans (finishes_expand _)
  have henum := hexpanded.trans (finishes_splitValues _ (.inl rfl))
  have hnames := henum.trans (finishes_splitValues _ (.inr rfl))
  have hreference := hnames.trans (finishes_applyOptionsReference _)
  exact (hreference.tail (.required _ _)).trans (hclear _)

/-- **What every step of finishing keeps, finishing keeps.** -/
theorem keeps_build (hstep : ∀ field field', FinishStep field field' → motive field → motive field')
    (settings : Settings) (h : motive field) : motive (field.build settings) := by
  have hkeep : ∀ field', Finishes field field' → motive field' := by
    intro field' hfinish
    induction hfinish with
    | refl => exact h
    | tail _ hlast ih => exact hstep _ _ hlast ih
  exact hkeep _ (finishes_build settings field)

/-- What is kept whenever an attribute is set that finishing sets, to whatever value, and whenever
a dotted key is expanded, finishing keeps. -/
theorem build_induction
    (hset : ∀ (field : Field), ∀ key ∈ finishedKeys, ∀ value, motive field →
      motive (Entries.insert field key value))
    (hexpand : ∀ (field : Field) (key : String), isDotted key = true → motive field →
      motive (field.expandKey key))
    (settings : Settings) (h : motive field) : motive (field.build settings) := by
  refine keeps_build ?_ settings h
  intro field field' hstep hfield
  cases hstep with
  | event event expression => exact hset field "events" (by decide) _ hfield
  | type type => exact hset field "fieldType" (by decide) _ hfield
  | expand hkey => exact hexpand field _ hkey hfield
  | list hkey s =>
    rcases hkey with rfl | rfl
    · exact hset field "enum" (by decide) _ hfield
    · exact hset field "enumNames" (by decide) _ hfield
  | required flag => exact hset field "required" (by decide) _ hfield
  | nameless => exact hset field "name" (by decide) _ hfield

/-- **What single renames keep, normalizing keeps.** -/
theorem normalizeNames_induction {mappings : Mappings}
    (hrename : ∀ (field : Field), ∀ rename ∈ mappings.names, ∀ value,
      field.get? rename.source = some value → motive field →
      motive (Entries.insert (Entries.erase field rename.source) rename.target value))
    (h : motive field) : motive (field.normalizeNames mappings) := by
  rw [normalizeNames]
  refine List.foldlRecOn _ _ h ?_
  intro field' h' rename hmem
  rw [Field.rename]
  split_ifs
  · exact h'
  · split
    · rename_i value hvalue
      split_ifs
      · exact hrename field' rename hmem value hvalue h'
      · exact h'
    · exact h'

/-! ### Attributes that finishing sets last -/

theorem get?_setEvent {key : String} (h : key ≠ "events") (field : Field)
    (event expression : String) : (field.setEvent event expression).get? key = field.get? key :=
  Entries.get?_insert_of_ne _ _ h

theorem get?_applyOptionsReference {key : String} (h : key ≠ "events") (field : Field) :
    field.applyOptionsReference.get? key = field.get? key := by
  rw [applyOptionsReference]
  split
  · rfl
  · dsimp only
    split
    · exact get?_setEvent h _ _ _
    · rw [get?_setEvent h, get?_setEvent h]

theorem get?_coerceRequired {key : String} (h : key ≠ "required") (field : Field) :
    field.coerceRequired.get? key = field.get? key :=
  Entries.get?_insert_of_ne _ _ h

theorem get?_clearPanelName {key : String} (h : key ≠ "name") (field : Field) :
    field.clearPanelName.get? key = field.get? key := by
  rw [clearPanelName]
  split_ifs
  · exact Entries.get?_insert_of_ne _ _ h
  · rfl

theorem get?_splitValues {key other : String} (h : key ≠ other) (field : Field) :
    (field.splitValues other).get? key = field.get? key := by
  rw [splitValues]
  split
  · exact Entries.get?_insert_of_ne _ _ h
  · rfl

theorem get?_splitValues_ne (field : Field) (key s : String) :
    (field.splitValues key).get? key ≠ some (.string s) := by
  rw [splitValues]
  split
  · rw [Entries.get?_insert_self]
    simp
  · rename_i htext
    exact htext s

/-- The option lists of a finished field are no texts. -/
theorem get?_build_ne_text (settings : Settings) (field : Field) {key : String}
    (h : key = "enum" ∨ key = "enumNames") (s : String) :
    (field.build settings).get? key ≠ some (.string s) := by
  have hlater : key ≠ "events" ∧ key ≠ "required" ∧ key ≠ "name" := by
    rcases h with rfl | rfl <;> decide
  rw [build, get?_clearPanelName hlater.2.2, get?_coerceRequired hlater.2.1,
    get?_applyOptionsReference hlater.1]
  rcases h with rfl | rfl
  · rw [get?_splitValues (by decide)]
    exact get?_splitValues_ne _ _ s
  · exact get?_splitValues_ne _ _ s

theorem get?_required_build (settings : Settings) (field : Field) :
    ∃ flag, (field.build settings).get? "required" = some (.bool flag) := by
  rw [build, get?_clearPanelName (by decide)]
  exact ⟨_, Entries.get?_insert_self _ _ _⟩

/-! ### Places inside nested objects -/

theorem insertPath_cons (target : Entries) (head : String) {rest : List String} (h : rest ≠ [])
    (value : Json) : insertPath target (head :: rest) value =
      target.insert head (.object (insertPath (entriesAt target head) rest value)) := by
  cases rest with
  | nil => exact absurd rfl h
  | cons next rest => rfl

/-- A dotted key has a part behind the first one, and the first one has no dot. -/
theorem split_of_isDotted {key : String} (h : isDotted key = true) :
    ∃ head rest, split '.' key = head :: rest ∧ rest ≠ [] ∧ isDotted head = false := by
  cases hs : splitChars '.' key.toList with
  | nil => exact absurd hs (splitChars_ne_nil '.' _)
  | cons part parts =>
    have hkey := splitChars_eq_cons hs
    have hpart : '.' ∉ part := not_mem_of_mem_splitChars (hs ▸ List.mem_cons_self)
    refine ⟨String.ofList part, parts.map String.ofList, ?_, ?_, ?_⟩
    · rw [split, hs, List.map_cons]
    · intro hnil
      rw [List.map_eq_nil_iff.mp hnil, List.flatMap_nil, List.append_nil] at hkey
      rw [isDotted, hkey, List.contains_iff_mem] at h
      exact hpart h
    · rw [isDotted, String.toList_ofList, Bool.eq_false_iff, ne_eq, List.contains_iff_mem]
      exact hpart

theorem expandKey_eq {key head : String} {rest : List String} {value : Json}
    (hvalue : field.get? key = some value) (hsplit : split '.' key = head :: rest)
    (hrest : rest ≠ []) : field.expandKey key = Entries.insert (Entries.erase field key) head
      (.object (insertPath (entriesAt (Entries.erase field key) head) rest value)) := by
  rw [expandKey, hvalue]
  dsimp only
  rw [hsplit, insertPath_cons _ _ hrest]

/-- What is moved comes to stand in an object, so that a text elsewhere was there before. -/
theorem get?_text_of_expandKey {key other text : String} (hkey : isDotted key = true)
    (hother : isDotted other = false)
    (h : (field.expandKey key).get? other = some (.string text)) :
    field.get? other = some (.string text) := by
  cases hvalue : field.get? key with
  | none =>
    rw [expandKey, hvalue] at h
    exact h
  | some value =>
    obtain ⟨head, rest, hsplit, hrest, -⟩ := split_of_isDotted hkey
    rw [expandKey_eq hvalue hsplit hrest] at h
    have hne : other ≠ key := by
      rintro rfl
      rw [hother] at hkey
      cases hkey
    by_cases hhead : other = head
    · rw [hhead, Entries.get?_insert_self] at h
      cases h
    · rwa [Entries.get?_insert_of_ne _ _ hhead, Entries.get?_erase_of_ne _ hne] at h

theorem get?_text_of_expand {key text : String} (hkey : isDotted key = false)
    (h : field.expand.get? key = some (.string text)) : field.get? key = some (.string text) := by
  rw [expand] at h
  revert h
  refine List.foldlRecOn (motive := fun field' => Entries.get? field' key = some (.string text) →
    field.get? key = some (.string text)) _ _ (fun h => h) ?_
  intro field' ih dotted hdotted h
  exact ih (get?_text_of_expandKey (List.mem_filter.mp hdotted).2 hkey h)

/-! ### The type -/

theorem type?_eq_some_iff {type : String} :
    field.type? = some type ↔ field.get? "fieldType" = some (.string type) := by
  rw [type?, Option.bind_eq_some_iff]
  constructor
  · rintro ⟨value, hvalue, htype⟩
    cases value with
    | string s =>
      cases htype
      exact hvalue
    | _ => cases htype
  · intro h
    exact ⟨_, h, rfl⟩

theorem type?_mapType {mappings : Mappings} {type : String}
    (h : (field.mapType mappings).type? = some type) :
    ∃ own, field.type? = some own ∧ (mappings.inputType? own).getD own = type := by
  rw [mapType] at h
  split at h
  · rename_i mapped hmapped
    obtain ⟨own, hown, hword⟩ := Option.bind_eq_some_iff.mp hmapped
    rw [type?_eq_some_iff, Entries.get?_insert_self] at h
    cases h
    exact ⟨own, hown, by rw [hword, Option.getD_some]⟩
  · rename_i hnone
    refine ⟨type, h, ?_⟩
    rw [h, Option.bind_some] at hnone
    rw [hnone, Option.getD_none]

/-- **The type of a finished field is what the table makes of the type that it had.** -/
theorem type?_of_build {settings : Settings} {type : String}
    (h : (field.build settings).type? = some type) :
    ∃ own, field.type? = some own ∧ (settings.mappings.inputType? own).getD own = type := by
  rw [type?_eq_some_iff, build, get?_clearPanelName (by decide), get?_coerceRequired (by decide),
    get?_applyOptionsReference (by decide), get?_splitValues (by decide),
    get?_splitValues (by decide)] at h
  obtain ⟨own, hown, hword⟩ := type?_mapType (type?_eq_some_iff.mpr
    (get?_text_of_expand (by decide) h))
  refine ⟨own, ?_, hword⟩
  rw [applySubmit] at hown
  split_ifs at hown
  · rwa [type?, get?_setEvent (by decide)] at hown
  · exact hown

/-! ### The first parts of keys -/

theorem split_of_not_isDotted {key : String} (h : isDotted key = false) :
    split '.' key = [key] := by
  rw [isDotted, Bool.eq_false_iff, ne_eq, List.contains_iff_mem] at h
  rw [split, splitChars_of_not_mem h]
  simp

/-- No key is the given one, or begins with it and a dot. -/
def Lacks (root : String) (field : Field) : Prop :=
  ∀ key ∈ Entries.keys field, (split '.' key).head? ≠ some root

theorem head?_split_ne {root key : String} (hne : key ≠ root)
    (hdot : ¬ root.toList ++ ['.'] <+: key.toList) : (split '.' key).head? ≠ some root := by
  intro h
  cases hs : splitChars '.' key.toList with
  | nil => exact splitChars_ne_nil '.' _ hs
  | cons part parts =>
    have hkey := splitChars_eq_cons hs
    rw [split, hs, List.map_cons, List.head?_cons, Option.some.injEq] at h
    have hpart : part = root.toList := by rw [← h, String.toList_ofList]
    cases parts with
    | nil =>
      rw [hpart, List.flatMap_nil, List.append_nil] at hkey
      exact hne (String.toList_inj.mp hkey)
    | cons next parts =>
      refine hdot ⟨next ++ parts.flatMap ('.' :: ·), ?_⟩
      rw [hkey, hpart, List.flatMap_cons]
      simp

variable {root : String}

theorem Lacks.insert (h : Lacks root field) {key : String}
    (hkey : (split '.' key).head? ≠ some root) (value : Json) :
    Lacks root (Entries.insert field key value) := by
  intro k hk
  rcases Entries.mem_keys_insert field key value hk with rfl | hk
  · exact hkey
  · exact h k hk

theorem Lacks.filter (h : Lacks root field) (p : String × Json → Bool) :
    Lacks root (List.filter p field) := by
  intro key hkey
  obtain ⟨entry, hentry, rfl⟩ := List.mem_map.mp hkey
  exact h _ (List.mem_map_of_mem (List.mem_filter.mp hentry).1)

theorem Lacks.get? (h : Lacks root field) (hroot : isDotted root = false) :
    field.get? root = none := by
  cases hget : field.get? root with
  | none => rfl
  | some value =>
    have hne := h root (Entries.mem_keys_of_get? field hget)
    rw [split_of_not_isDotted hroot] at hne
    exact absurd rfl hne

/-- Finishing starts no attribute of a name that no column begins with. -/
theorem Lacks.build (h : Lacks root field) (hroot : root ∉ finishedKeys) (settings : Settings) :
    Lacks root (field.build settings) := by
  refine build_induction ?_ ?_ settings h
  · intro field' key hkey value h'
    refine h'.insert ?_ value
    have hdot : ∀ key ∈ finishedKeys, isDotted key = false := by decide
    rw [split_of_not_isDotted (hdot key hkey), List.head?_cons, ne_eq, Option.some.injEq]
    rintro rfl
    exact hroot hkey
  · intro field' key hkey h'
    cases hvalue : field'.get? key with
    | none =>
      rw [expandKey, hvalue]
      exact h'
    | some value =>
      obtain ⟨head, rest, hsplit, hrest, hhead⟩ := split_of_isDotted hkey
      rw [expandKey_eq hvalue hsplit hrest]
      refine (h'.filter _).insert ?_ _
      -- the key that is moved begins with the one it is moved to
      have hne := h' key (Entries.mem_keys_of_get? field' hvalue)
      rw [hsplit] at hne
      rwa [split_of_not_isDotted hhead]

theorem Lacks.normalizeNames (h : Lacks root field) {mappings : Mappings}
    (htarget : ∀ rename ∈ mappings.names, (split '.' rename.target).head? ≠ some root) :
    Lacks root (field.normalizeNames mappings) := by
  refine normalizeNames_induction ?_ h
  intro field' rename hmem value _ h'
  exact (h'.filter _).insert (htarget rename hmem) value

/-! ### The value rule -/

/-- The text stands where the value rule of a field is taken from: in the column of the value rule,
or as the value among the rules. -/
def InRules (field : Field) (text : String) : Prop :=
  field.get? "rules.value" = some (.string text) ∨
    ∃ rules : Entries, field.get? "rules" = some (.object rules) ∧
      rules.get? "value" = some (.string text)

theorem inRules_of_insert {key text : String} {value : Json} (hrules : "rules" ≠ key)
    (hvalue : "rules.value" ≠ key) (h : InRules (Entries.insert field key value) text) :
    InRules field text := by
  rw [InRules, Entries.get?_insert_of_ne _ _ hrules, Entries.get?_insert_of_ne _ _ hvalue] at h
  exact h

/-- A value at a place inside rules is the value rule only if the place is that of the value. -/
theorem get?_value_insertPath {target : Entries} {path : List String} {value : Json} {text : String}
    (h : (insertPath target path value).get? "value" = some (.string text)) :
    (path = ["value"] ∧ value = .string text) ∨ target.get? "value" = some (.string text) := by
  cases path with
  | nil => exact .inr h
  | cons head rest =>
    by_cases hhead : "value" = head
    · cases rest with
      | nil =>
        rw [insertPath, hhead, Entries.get?_insert_self] at h
        exact .inl ⟨by rw [hhead], Option.some.inj h⟩
      | cons next rest =>
        -- an object stands there
        rw [insertPath_cons _ _ (List.cons_ne_nil _ _), hhead, Entries.get?_insert_self] at h
        cases h
    · right
      cases rest with
      | nil =>
        rw [insertPath, Entries.get?_insert_of_ne _ _ hhead] at h
        exact h
      | cons next rest =>
        rw [insertPath_cons _ _ (List.cons_ne_nil _ _), Entries.get?_insert_of_ne _ _ hhead] at h
        exact h

theorem get?_entriesAt {key key' : String} {value : Json}
    (h : (entriesAt field key).get? key' = some value) :
    ∃ entries : Entries, field.get? key = some (.object entries) ∧
      entries.get? key' = some value := by
  unfold entriesAt at h
  split at h
  · rename_i entries hentries
    exact ⟨entries, hentries, h⟩
  · cases h

theorem inRules_of_expandKey {key text : String} (hkey : isDotted key = true)
    (h : InRules (field.expandKey key) text) : InRules field text := by
  cases hvalue : field.get? key with
  | none =>
    rw [expandKey, hvalue] at h
    exact h
  | some value =>
    obtain ⟨head, rest, hsplit, hrest, hhead⟩ := split_of_isDotted hkey
    rw [expandKey_eq hvalue hsplit hrest] at h
    have hkept : "rules" ≠ key := by
      rintro rfl
      revert hkey
      decide
    have herased := Entries.get?_erase_of_ne field hkept
    rcases h with h | ⟨rules, hrules, htext⟩
    · -- the column of the value rule is dotted, so that nothing is moved into it
      have hne : "rules.value" ≠ head := by
        rintro rfl
        revert hhead
        decide
      rw [Entries.get?_insert_of_ne _ _ hne] at h
      by_cases hcolumn : "rules.value" = key
      · rw [hcolumn, Entries.get?_erase_self] at h
        cases h
      · rw [Entries.get?_erase_of_ne _ hcolumn] at h
        exact .inl h
    · by_cases hrule : "rules" = head
      · rw [hrule, Entries.get?_insert_self] at hrules
        cases hrules
        rcases get?_value_insertPath htext with ⟨hpath, hcell⟩ | hold
        · left
          have hcolumn : key = "rules.value" := by
            have hjoin := intercalate_split key
            rw [hsplit, hpath, ← hrule] at hjoin
            exact hjoin.symm.trans (by decide)
          rw [← hcolumn, hvalue, hcell]
        · right
          obtain ⟨entries, hentries, hget⟩ := get?_entriesAt hold
          rw [← hrule, herased] at hentries
          exact ⟨entries, hentries, hget⟩
      · rw [Entries.get?_insert_of_ne _ _ hrule, herased] at hrules
        exact .inr ⟨rules, hrules, htext⟩

/-- **The value rule of a finished field was there before.** -/
theorem inRules_of_build {settings : Settings} {text : String}
    (h : (field.build settings).valueRule? = some text) : InRules field text := by
  obtain ⟨rules, hrules, hvalue⟩ := valueRule?_eq_some_iff.mp h
  have hkept : ∀ text, InRules (field.build settings) text → InRules field text := by
    refine build_induction
      (motive := fun field' => ∀ text, InRules field' text → InRules field text)
      ?_ ?_ settings fun _ h => h
    · intro field' key hkey value h' text' htext
      have hne : ∀ key ∈ finishedKeys, "rules" ≠ key ∧ "rules.value" ≠ key := by decide
      exact h' text' (inRules_of_insert (hne key hkey).1 (hne key hkey).2 htext)
    · intro field' key hkey h' text' htext
      exact h' text' (inRules_of_expandKey hkey htext)
  exact hkept text (.inr ⟨rules, hrules, hvalue⟩)

end AdaptiveForm.Field
