import AdaptiveForm.Proofs.Field.Attribute
import AdaptiveForm.Schema.Basic

/-!
# Values that fit a shape

A value conforms to a schema if nothing about it is reported.  One lemma for each type of value says
what this comes to: `conforms_string`, `conforms_array`, `conforms_object`.  The one about objects
speaks of the values by their keys, so that nothing depends on the order of the entries.
-/

namespace AdaptiveForm.Schema

variable {N : Type} {schema : N → Shape N} {name : N}

def Conforms (schema : N → Shape N) (value : Json) (name : N) : Prop :=
  violations schema value name = []

instance (schema : N → Shape N) (value : Json) (name : N) :
    Decidable (Conforms schema value name) :=
  decidable_of_iff ((violations schema value name).isEmpty = true) List.isEmpty_iff

def Shape.Allows (shape : Shape N) (kind : Kind) : Prop :=
  shape.kinds = [] ∨ kind ∈ shape.kinds

theorem kindViolations_eq_nil {shape : Shape N} {value : Json} :
    kindViolations shape value = [] ↔ shape.Allows (Kind.of value) := by
  simp [kindViolations, Shape.Allows, Classical.or_iff_not_imp_left]

theorem conforms_string {text : String} (hkind : (schema name).Allows .string)
    (hpattern : ∀ pattern, (schema name).pattern = some pattern → pattern.holds text = true)
    (hforbidden : (schema name).forbidden = []) : Conforms schema (.string text) name := by
  have hkind' : kindViolations (schema name) (.string text) = [] := kindViolations_eq_nil.mpr hkind
  have hpattern' : patternViolations (schema name) (.string text) = [] := by
    cases hp : (schema name).pattern with
    | none => simp [patternViolations, hp]
    | some pattern => simp [patternViolations, hp, hpattern pattern hp]
  simp [Conforms, violations, ownViolations, hkind', hpattern', requiredViolations,
    forbiddenViolations, hforbidden]

theorem conforms_bool {flag : Bool} (hkind : (schema name).Allows .boolean)
    (hforbidden : (schema name).forbidden = []) : Conforms schema (.bool flag) name := by
  have hkind' : kindViolations (schema name) (.bool flag) = [] := kindViolations_eq_nil.mpr hkind
  simp [Conforms, violations, ownViolations, hkind', patternViolations, requiredViolations,
    forbiddenViolations, hforbidden]

theorem conforms_null (hkind : (schema name).Allows .null)
    (hforbidden : (schema name).forbidden = []) : Conforms schema .null name := by
  have hkind' : kindViolations (schema name) .null = [] := kindViolations_eq_nil.mpr hkind
  simp [Conforms, violations, ownViolations, hkind', patternViolations, requiredViolations,
    forbiddenViolations, hforbidden]

theorem itemViolations_eq_nil {items : List Json} :
    itemViolations schema items name = [] ↔ ∀ item ∈ items, Conforms schema item name := by
  induction items with
  | nil => simp [itemViolations]
  | cons item items ih => simp [itemViolations, ih, Conforms]

theorem conforms_array {items : List Json} : Conforms schema (.array items) name ↔
    (schema name).Allows .array ∧
    (∀ part, (schema name).items = some part → ∀ item ∈ items, Conforms schema item part) ∧
    (schema name).forbidden = [] := by
  have hkind : kindViolations (schema name) (.array items) = [] ↔ (schema name).Allows .array :=
    kindViolations_eq_nil
  rw [Conforms, violations, ownViolations]
  cases (schema name).items with
  | none => simp [hkind, requiredViolations, patternViolations, forbiddenViolations, hasKeys]
  | some part =>
    simp [hkind, requiredViolations, patternViolations, forbiddenViolations, hasKeys,
      itemViolations_eq_nil]

/-! ### Objects -/

theorem lookup_entryChecks (entries : Entries) (key : String) :
    (entryChecks schema entries).lookup key = (entries.get? key).map (violations schema) := by
  induction entries with
  | nil => rfl
  | cons entry entries ih =>
    obtain ⟨k, value⟩ := entry
    rw [entryChecks, Entries.get?, lookup_cons_ite, lookup_cons_ite]
    split_ifs
    · rfl
    · exact ih

theorem mem_entryChecks {entries : Entries} {check : String × (N → List Violation)} :
    check ∈ entryChecks schema entries ↔
      ∃ entry ∈ entries, check = (entry.1, violations schema entry.2) := by
  induction entries with
  | nil => simp [entryChecks]
  | cons entry entries ih => simp [entryChecks, ih]

def Shape.Names (shape : Shape N) (key : String) : Prop :=
  ∃ part, (key, part) ∈ shape.properties

theorem entryViolations_eq_nil {shape : Shape N} {entries : Entries} :
    entryViolations shape (entryChecks schema entries) = [] ↔
      (∀ key part, (key, part) ∈ shape.properties → ∀ value, entries.get? key = some value →
        Conforms schema value part) ∧
      ∀ other, shape.additional = some other → ∀ key value, (key, value) ∈ entries →
        ¬ shape.Names key → Conforms schema value other := by
  rw [entryViolations, List.append_eq_nil_iff]
  refine and_congr ?_ ?_
  · rw [List.flatMap_eq_nil_iff, Prod.forall]
    refine forall_congr' fun key => forall_congr' fun part => imp_congr_right fun _ => ?_
    rw [lookup_entryChecks]
    cases entries.get? key with
    | none => simp
    | some value => simp [Conforms]
  · cases shape.additional with
    | none => simp
    | some other =>
      have hnames : ∀ key, shape.properties.any (·.1 == key) = true ↔ shape.Names key := by
        intro key
        simp [Shape.Names]
      simp only [List.flatMap_eq_nil_iff, mem_entryChecks, Option.some.injEq, forall_eq']
      constructor
      · intro h key value hmem hkey
        have hcheck := h _ ⟨_, hmem, rfl⟩
        rw [if_neg (mt (hnames key).mp hkey)] at hcheck
        exact hcheck
      · rintro h _ ⟨⟨key, value⟩, hmem, rfl⟩
        split_ifs with hany
        · rfl
        · exact h key value hmem (mt (hnames key).mpr hany)

/-- **An object conforms** if it may be one, has the keys that it must have and not all of those
that it must not have, and the values of its keys conform, each to the shape of its key. -/
theorem conforms_object {entries : Entries} : Conforms schema (.object entries) name ↔
    (schema name).Allows .object ∧
    (∀ key ∈ (schema name).required, entries.contains key = true) ∧
    (∀ key part, (key, part) ∈ (schema name).properties → ∀ value, entries.get? key = some value →
      Conforms schema value part) ∧
    (∀ other, (schema name).additional = some other → ∀ key value, (key, value) ∈ entries →
      ¬ (schema name).Names key → Conforms schema value other) ∧
    ((schema name).forbidden = [] ∨ ∃ key ∈ (schema name).forbidden,
      entries.contains key = false) := by
  have hkind : kindViolations (schema name) (.object entries) = [] ↔ (schema name).Allows .object :=
    kindViolations_eq_nil
  have hrequired : requiredViolations (schema name) (.object entries) = [] ↔
      ∀ key ∈ (schema name).required, entries.contains key = true := by
    simp [requiredViolations, List.filter_eq_nil_iff]
  have hpattern : patternViolations (schema name) (.object entries) = [] := rfl
  have hforbidden : forbiddenViolations (schema name) (.object entries) = [] ↔
      (schema name).forbidden = [] ∨ ∃ key ∈ (schema name).forbidden,
        entries.contains key = false := by
    simp [forbiddenViolations, hasKeys, Classical.or_iff_not_imp_left]
  rw [Conforms, violations, ownViolations, hpattern, List.append_nil, List.append_eq_nil_iff,
    List.append_eq_nil_iff, List.append_eq_nil_iff, hkind, hrequired, entryViolations_eq_nil,
    hforbidden]
  simp only [and_assoc]

theorem Conforms.insert {entries : Entries} (h : Conforms schema (.object entries) name)
    {key : String} {value : Json}
    (hpart : ∀ part, (key, part) ∈ (schema name).properties → Conforms schema value part)
    (hother : ∀ other, (schema name).additional = some other → Conforms schema value other)
    (hforbidden : key ∉ (schema name).forbidden) :
    Conforms schema (.object (entries.insert key value)) name := by
  obtain ⟨hkind, hrequired, hproperties, hadditional, hfree⟩ := conforms_object.mp h
  have hcontains : ∀ k, k ≠ key → (entries.insert key value).contains k = entries.contains k := by
    intro k hk
    rw [Entries.contains_eq_isSome, Entries.contains_eq_isSome, Entries.get?_insert_of_ne _ _ hk]
  refine conforms_object.mpr ⟨hkind, ?_, ?_, ?_, ?_⟩
  · intro k hk
    by_cases hkey : k = key
    · rw [hkey, Entries.contains_eq_isSome, Entries.get?_insert_self]
      rfl
    · rw [hcontains k hkey]
      exact hrequired k hk
  · intro k part hk v hv
    by_cases hkey : k = key
    · subst hkey
      rw [Entries.get?_insert_self, Option.some.injEq] at hv
      exact hv ▸ hpart part hk
    · rw [Entries.get?_insert_of_ne _ _ hkey] at hv
      exact hproperties k part hk v hv
  · intro other ho k v hv hnames
    rcases Entries.mem_insert entries key value hv with heq | hv
    · cases heq
      exact hother other ho
    · exact hadditional other ho k v hv hnames
  · rcases hfree with hnone | ⟨k, hk, habsent⟩
    · exact .inl hnone
    · refine .inr ⟨k, hk, ?_⟩
      rw [hcontains k (ne_of_mem_of_not_mem hk hforbidden)]
      exact habsent

end AdaptiveForm.Schema
