import AdaptiveForm.Form.Transform
import AdaptiveForm.Proofs.Field.Attribute
import AdaptiveForm.Proofs.Rule.Splice
import Mathlib.Data.List.Induction
import Mathlib.Data.List.Nodup
import Mathlib.Tactic.SplitIfs

/-!
# Merged properties

The properties that some rows declare are told here from the rows: one entry for each name, in the
order in which the names first occur, with the default of the last row of the name, and one fragment
for each row that carries one.  A row's fragment is an object in which the name of the row stands
before the text of its column, and the rule of the form is a call of `merge` with all of these
objects.  Both are made by writing texts next to each other, and so the rule passes the check where
the texts that it is made of do, `check_mergedText`.
-/

namespace AdaptiveForm

open AdaptiveForm.Rule

namespace Properties

def ofRows (rows : List Field) : Properties :=
  rows.foldl record empty

def defaultOf (row : Field) : Json :=
  (row.get? "default").getD .null

/-- The rows that carry a rule fragment, each with the value of that column. -/
def carriers (rows : List Field) : List (Field × Json) :=
  rows.filterMap fun row => (row.get? fragmentColumn).map (row, ·)

def fragmentText (carrier : Field × Json) : String :=
  "\x7b" ++ nameOf carrier.1 ++ ": " ++ carrier.2.plainText ++ "\x7d"

theorem ofRows_append (rows : List Field) (row : Field) :
    ofRows (rows ++ [row]) = (ofRows rows).record row := by
  rw [ofRows, List.foldl_append]
  rfl

/-! ### Defaults -/

/-- The names of the properties are those of the rows, in the order of their first occurrence. -/
theorem keys_ofRows (rows : List Field) :
    (ofRows rows).defaults.keys = (rows.map nameOf).eraseDups := by
  induction rows using List.reverseRecOn with
  | nil => rfl
  | append_singleton rows row ih =>
    rw [ofRows_append, record, Entries.keys_insert_eq, ih, List.map_append, List.map_singleton,
      eraseDups_concat]
    simp only [List.mem_eraseDups]

theorem nodup_keys_ofRows (rows : List Field) : (ofRows rows).defaults.keys.Nodup := by
  induction rows using List.reverseRecOn with
  | nil => exact List.nodup_nil
  | append_singleton rows row ih =>
    rw [ofRows_append, record, Entries.keys_insert_eq]
    split_ifs with hmem
    · exact ih
    · rw [← List.concat_eq_append]
      exact (List.nodup_concat _ _).mpr ⟨hmem, ih⟩

/-- The last row of a name decides. -/
theorem get?_ofRows (rows : List Field) (name : String) :
    (ofRows rows).defaults.get? name =
      (rows.findRev? fun row => nameOf row == name).map defaultOf := by
  induction rows using List.reverseRecOn with
  | nil => rfl
  | append_singleton rows row ih =>
    rw [ofRows_append, record]
    by_cases hname : nameOf row = name
    · subst hname
      rw [Entries.get?_insert_self]
      simp [defaultOf]
    · rw [Entries.get?_insert_of_ne _ _ (Ne.symm hname), ih]
      simp [hname]

theorem properties_foldl (settings : Settings) (rows : List Entries) :
    (rows.foldl (Pass.addRow settings) .initial).properties =
      ofRows ((rows.map (normalizeRow settings)).filter isProperty) := by
  induction rows using List.reverseRecOn with
  | nil => rfl
  | append_singleton rows row ih =>
    rw [List.foldl_append, List.map_append, List.filter_append, List.foldl_cons, List.foldl_nil,
      Pass.addRow, List.map_singleton, List.filter_cons, List.filter_nil]
    split_ifs with hproperty
    · rw [ofRows_append, ← ih]
      rfl
    · rw [List.append_nil, ← ih]
      rfl

/-! ### Fragments -/

theorem fragment?_eq_map (row : Field) :
    fragment? row = ((row.get? fragmentColumn).map (row, ·)).map fragmentText := by
  rw [fragment?, Option.map_map]
  rfl

theorem fragments_ofRows (rows : List Field) :
    (ofRows rows).fragments = (carriers rows).map fragmentText := by
  induction rows using List.reverseRecOn with
  | nil => rfl
  | append_singleton rows row ih =>
    have hcarriers : carriers (rows ++ [row]) =
        carriers rows ++ ((row.get? fragmentColumn).map (row, ·)).toList := by
      rw [carriers, List.filterMap_append, carriers, List.filterMap_cons, List.filterMap_nil]
      cases (row.get? fragmentColumn).map (row, ·) <;> rfl
    rw [ofRows_append, record, ih, hcarriers, List.map_append, fragment?_eq_map]
    cases row.get? fragmentColumn <;> rfl

theorem mem_carriers {rows : List Field} {row : Field} {fragment : Json} :
    (row, fragment) ∈ carriers rows ↔ row ∈ rows ∧ row.get? fragmentColumn = some fragment := by
  simp only [carriers, List.mem_filterMap, Option.map_eq_some_iff, Prod.mk.injEq]
  constructor
  · rintro ⟨found, hmem, _, hget, rfl, rfl⟩
    exact ⟨hmem, hget⟩
  · rintro ⟨hmem, hget⟩
    exact ⟨row, hmem, fragment, hget, rfl, rfl⟩

theorem carriers_ne_nil_iff {rows : List Field} : carriers rows ≠ [] ↔
    ∃ row ∈ rows, ∃ fragment, row.get? fragmentColumn = some fragment := by
  simp [carriers, Option.ne_none_iff_exists']

/-! ### The merged rule -/

def mergedText (carriers : List (Field × Json)) : String :=
  "merge(" ++ String.intercalate "," ("$properties" :: carriers.map fragmentText) ++ ")"

/-- A form has a rule for its properties exactly if some row carries a fragment. -/
theorem get?_formRules_ofRows (rows : List Field) : (ofRows rows).formRules.get? "properties" =
    if carriers rows = [] then none else some (.string (mergedText (carriers rows))) := by
  rw [formRules, merged?, fragments_ofRows]
  cases carriers rows with
  | nil => rfl
  | cons carrier rest => rfl

/-- A carrier whose name can be a key and whose fragment is a rule of its own. -/
def FragmentPasses (carrier : Field × Json) : Prop :=
  isWord (nameOf carrier.1).toList = true ∧
    ∃ rule, carrier.2 = .string rule ∧ check rule = .ok ()

theorem FragmentPasses.check_fragmentText {carrier : Field × Json} (h : FragmentPasses carrier) :
    check (fragmentText carrier) = .ok () := by
  obtain ⟨hname, rule, hrule, hcheck⟩ := h
  have hobject := check_object isComma (.inl rfl) (List.cons_ne_nil (nameOf carrier.1, rule) [])
    (List.forall_mem_singleton.mpr hname) (List.forall_mem_singleton.mpr hcheck)
  simpa [fragmentText, hrule, Json.plainText, String.append_assoc] using hobject

/-- **Fragments that pass are merged to a rule that passes.** -/
theorem check_mergedText {carriers : List (Field × Json)}
    (h : ∀ carrier ∈ carriers, FragmentPasses carrier) : check (mergedText carriers) = .ok () := by
  have hmerge : IsCallable "merge" := by decide
  have hopen : "merge(" = "merge" ++ "(" := rfl
  rw [mergedText, hopen]
  refine check_call hmerge isComma (List.cons_ne_nil _ _) ?_
  intro rule hrule
  rcases List.mem_cons.mp hrule with rfl | hrule
  · with_unfolding_all rfl
  · obtain ⟨carrier, hcarrier, rfl⟩ := List.mem_map.mp hrule
    exact (h carrier hcarrier).check_fragmentText

/-- **Properties are put together from their rows.** The properties of a form have one entry for
each name, in the order in which the names first occur, with the default of the last row of the
name.  There is a rule for them exactly if some row carries a fragment, and it merges one fragment
for each such row, in row order.  If the name of each such row is a word and its fragment is a text
that passes the check by itself, then the rule passes. -/
theorem ofRows_merges (rows : List Field) :
    let properties := ofRows rows
    (properties.defaults.keys = (rows.map nameOf).eraseDups ∧ properties.defaults.keys.Nodup) ∧
    (∀ name, properties.defaults.get? name =
      (rows.findRev? fun row => nameOf row == name).map defaultOf) ∧
    ((properties.formRules.get? "properties").isSome = true ↔
      ∃ row ∈ rows, ∃ fragment, row.get? fragmentColumn = some fragment) ∧
    (∀ rule, properties.formRules.get? "properties" = some rule →
      rule = .string (mergedText (carriers rows))) ∧
    ((∀ row ∈ rows, ∀ fragment, row.get? fragmentColumn = some fragment →
        isWord (nameOf row).toList = true ∧
          ∃ text, fragment = .string text ∧ check text = .ok ()) →
      ∀ rule, properties.formRules.get? "properties" = some (.string rule) →
        check rule = .ok ()) := by
  intro properties
  have hrules : properties.formRules.get? "properties" = _ := get?_formRules_ofRows rows
  have hmerged : ∀ rule, properties.formRules.get? "properties" = some rule →
      rule = .string (mergedText (carriers rows)) := by
    intro rule hrule
    rw [hrules] at hrule
    split_ifs at hrule
    exact (Option.some.inj hrule).symm
  refine ⟨⟨keys_ofRows rows, nodup_keys_ofRows rows⟩, get?_ofRows rows, ?_, hmerged, ?_⟩
  · rw [← carriers_ne_nil_iff, hrules]
    split_ifs with hnil <;> simp [hnil]
  · intro h rule hrule
    rw [Json.string.inj (hmerged _ hrule)]
    exact check_mergedText fun carrier hcarrier =>
      h carrier.1 (mem_carriers.mp hcarrier).1 carrier.2 (mem_carriers.mp hcarrier).2

/-- A name that occurs twice, a row without a default and one without a fragment. -/
theorem ofRows_merges_theme :
    let theme (default : String) (fragment : Entries) : Field :=
      [("name", .string "theme"), ("default", .string default)] ++ fragment
    let rows := [theme "light" [(fragmentColumn, .string "$form.dark & 1")],
      [("name", .string "limit"), (fragmentColumn, .string "min([$form.a, 10])")], theme "dark" []]
    (ofRows rows).defaults = [("theme", .string "dark"), ("limit", .null)] ∧
    (ofRows rows).formRules.get? "properties" = some (.string
      "merge($properties,\x7btheme: $form.dark & 1\x7d,\x7blimit: min([$form.a, 10])\x7d)") ∧
    check "merge($properties,\x7btheme: $form.dark & 1\x7d,\x7blimit: min([$form.a, 10])\x7d)" =
      .ok () := by
  intro theme rows
  have hrule : (ofRows rows).formRules.get? "properties" = some (.string
      "merge($properties,\x7btheme: $form.dark & 1\x7d,\x7blimit: min([$form.a, 10])\x7d)") := by
    rfl
  obtain ⟨-, -, -, -, hpasses⟩ := ofRows_merges rows
  refine ⟨rfl, hrule, hpasses ?_ _ hrule⟩
  intro row hrow fragment hfragment
  simp only [rows, List.mem_cons, List.not_mem_nil, or_false] at hrow
  rcases hrow with rfl | rfl | rfl
  · cases hfragment
    exact ⟨by decide, _, rfl, by with_unfolding_all rfl⟩
  · cases hfragment
    exact ⟨rfl, _, rfl, by with_unfolding_all rfl⟩
  · cases hfragment

end Properties

end AdaptiveForm
