import AdaptiveForm.Field.Basic
import Mathlib.Tactic.SplitIfs

/-!
# Attributes of a field

What is found in a list of entries after a key has been set or removed, and what is left as it was.
The value rule of a field is one entry inside one attribute: replacing it keeps every key in its
place and every other entry as it is, `RuleReplaced`.
-/

namespace AdaptiveForm

theorem lookup_cons_ite {α β : Type} [DecidableEq α] (key k : α) (value : β)
    (rest : List (α × β)) : ((k, value) :: rest).lookup key =
      if key = k then some value else rest.lookup key := by
  rw [List.lookup_cons]
  by_cases h : key = k
  · simp [h]
  · rw [beq_false_of_ne h, if_neg h]

theorem eraseDups_concat {α : Type} [DecidableEq α] (l : List α) (a : α) :
    (l ++ [a]).eraseDups = if a ∈ l then l.eraseDups else l.eraseDups ++ [a] := by
  rw [List.eraseDups_append]
  split_ifs with hmem <;> simp [List.removeAll, hmem, List.eraseDups_cons]

namespace Entries

variable (entries : Entries) (key : String) (value : Json)

theorem get?_insert_self : (entries.insert key value).get? key = some value := by
  induction entries with
  | nil => simp [insert, get?]
  | cons entry entries ih =>
    obtain ⟨k, v⟩ := entry
    rw [insert]
    split_ifs with hk
    · simp [get?, hk]
    · rw [get?, lookup_cons_ite, if_neg (Ne.symm hk)]
      exact ih

theorem get?_insert_of_ne {key key' : String} (h : key' ≠ key) :
    (entries.insert key value).get? key' = entries.get? key' := by
  induction entries with
  | nil => simp [insert, get?, h]
  | cons entry entries ih =>
    obtain ⟨k, v⟩ := entry
    rw [insert]
    split_ifs with hk
    · simp [get?, lookup_cons_ite, hk, h]
    · rw [get?, get?, lookup_cons_ite, lookup_cons_ite]
      exact congrArg _ ih

theorem insert_insert (value' : Json) :
    (entries.insert key value).insert key value' = entries.insert key value' := by
  induction entries with
  | nil => simp [insert]
  | cons entry entries ih =>
    obtain ⟨k, v⟩ := entry
    by_cases hk : k = key
    · simp [insert, hk]
    · simp only [insert, hk, if_false, ih]

/-- A key that is set again keeps its place. -/
theorem keys_insert {key : String} {old : Json} (h : entries.get? key = some old) :
    (entries.insert key value).keys = entries.keys := by
  induction entries with
  | nil => cases h
  | cons entry entries ih =>
    obtain ⟨k, v⟩ := entry
    rw [insert]
    split_ifs with hk
    · simp [keys, hk]
    · rw [get?, lookup_cons_ite, if_neg (Ne.symm hk)] at h
      rw [keys, List.map_cons]
      exact congrArg _ (ih h)

theorem insert_of_notMem {key : String} (h : key ∉ entries.keys) :
    entries.insert key value = entries ++ [(key, value)] := by
  induction entries with
  | nil => rfl
  | cons entry entries ih =>
    obtain ⟨k, v⟩ := entry
    obtain ⟨hk, hrest⟩ := not_or.mp (mt List.mem_cons.mpr h)
    rw [insert, if_neg (Ne.symm hk), ih hrest, List.cons_append]

theorem keys_erase : (entries.erase key).keys = entries.keys.filter (· != key) := by
  rw [keys, erase, keys, List.filter_map]
  rfl

theorem erase_insert : (entries.insert key value).erase key = entries.erase key := by
  induction entries with
  | nil => simp [insert, erase]
  | cons entry entries ih =>
    rw [insert]
    split_ifs with hk
    · simp [erase, hk]
    · rw [erase, erase, List.filter_cons, List.filter_cons]
      simp only [bne_iff_ne, ne_eq, hk, not_false_eq_true, if_true]
      exact congrArg _ ih

theorem erase_insert_of_ne {key key' : String} (h : key ≠ key') (value : Json) :
    (entries.insert key value).erase key' = (entries.erase key').insert key value := by
  induction entries with
  | nil => simp [insert, erase, h]
  | cons entry entries ih =>
    obtain ⟨k, v⟩ := entry
    rw [erase] at ih
    by_cases hk : k = key
    · simp [insert, erase, hk, h]
    · by_cases hk' : k = key'
      · have hinsert : insert ((k, v) :: entries) key value = (k, v) :: insert entries key value :=
          if_neg hk
        rw [hinsert, hk', erase, erase, List.filter_cons_of_neg (by simp),
          List.filter_cons_of_neg (by simp)]
        exact ih
      · simp [insert, erase, hk, hk', ih]

theorem erase_comm (key key' : String) :
    (entries.erase key).erase key' = (entries.erase key').erase key := by
  rw [erase, erase, erase, erase, List.filter_filter, List.filter_filter]
  simp only [Bool.and_comm]

theorem mem_insert {entry : String × Json} (h : entry ∈ entries.insert key value) :
    entry = (key, value) ∨ entry ∈ entries := by
  induction entries with
  | nil => exact .inl (List.mem_singleton.mp h)
  | cons first entries ih =>
    obtain ⟨k, v⟩ := first
    rw [insert] at h
    split_ifs at h with hk
    · rcases List.mem_cons.mp h with h | h
      · exact .inl (hk ▸ h)
      · exact .inr (List.mem_cons_of_mem _ h)
    · rcases List.mem_cons.mp h with h | h
      · exact .inr (h ▸ List.mem_cons_self)
      · rcases ih h with h | h
        · exact .inl h
        · exact .inr (List.mem_cons_of_mem _ h)

theorem mem_keys_insert {k : String} (h : k ∈ (entries.insert key value).keys) :
    k = key ∨ k ∈ entries.keys := by
  obtain ⟨entry, hentry, rfl⟩ := List.mem_map.mp h
  rcases mem_insert entries key value hentry with rfl | hold
  · exact .inl rfl
  · exact .inr (List.mem_map_of_mem hold)

theorem mem_of_get? {key : String} {value : Json} (h : entries.get? key = some value) :
    (key, value) ∈ entries := by
  induction entries with
  | nil => cases h
  | cons entry entries ih =>
    obtain ⟨k, v⟩ := entry
    rw [get?, lookup_cons_ite] at h
    split_ifs at h with hk
    · cases h
      rw [hk]
      exact List.mem_cons_self
    · exact List.mem_cons_of_mem _ (ih h)

theorem mem_keys_of_get? {key : String} {value : Json} (h : entries.get? key = some value) :
    key ∈ entries.keys :=
  List.mem_map_of_mem (mem_of_get? entries h)

theorem exists_get?_of_mem_keys {key : String} (h : key ∈ entries.keys) :
    ∃ value, entries.get? key = some value := by
  induction entries with
  | nil => cases h
  | cons entry entries ih =>
    obtain ⟨k, v⟩ := entry
    rw [get?, lookup_cons_ite]
    by_cases hk : key = k
    · exact ⟨v, if_pos hk⟩
    · rw [if_neg hk]
      exact ih (List.mem_of_ne_of_mem hk h)

theorem mem_keys_iff {key : String} :
    key ∈ entries.keys ↔ ∃ value, entries.get? key = some value :=
  ⟨exists_get?_of_mem_keys entries, fun ⟨_, hvalue⟩ => mem_keys_of_get? entries hvalue⟩

theorem keys_insert_eq : (entries.insert key value).keys =
    if key ∈ entries.keys then entries.keys else entries.keys ++ [key] := by
  split_ifs with h
  · obtain ⟨old, hold⟩ := exists_get?_of_mem_keys entries h
    exact keys_insert entries value hold
  · rw [insert_of_notMem entries value h, keys, List.map_append]
    rfl

theorem contains_eq_isSome (key : String) : entries.contains key = (entries.get? key).isSome := by
  induction entries with
  | nil => rfl
  | cons entry entries ih =>
    obtain ⟨k, v⟩ := entry
    rw [contains, List.any_cons, get?, lookup_cons_ite]
    by_cases hk : key = k
    · simp [hk]
    · rw [if_neg hk, beq_false_of_ne (Ne.symm hk), Bool.false_or]
      exact ih

theorem get?_erase_self : (entries.erase key).get? key = none := by
  cases h : (entries.erase key).get? key with
  | none => rfl
  | some value =>
    have hmem := mem_of_get? _ h
    rw [erase, List.mem_filter] at hmem
    simp at hmem

theorem get?_erase_of_ne {key key' : String} (h : key' ≠ key) :
    (entries.erase key).get? key' = entries.get? key' := by
  induction entries with
  | nil => rfl
  | cons entry entries ih =>
    obtain ⟨k, v⟩ := entry
    rw [erase, get?] at ih
    by_cases hk : k = key
    · simp [erase, get?, lookup_cons_ite, hk, h, ih]
    · simp [erase, get?, lookup_cons_ite, hk, ih]

theorem filter_insert {p : String → Bool} {key : String} (h : p key = false) :
    List.filter (fun entry => p entry.1) (entries.insert key value) =
      List.filter (fun entry => p entry.1) entries := by
  induction entries with
  | nil => simp [insert, h]
  | cons entry entries ih =>
    obtain ⟨k, v⟩ := entry
    rw [insert]
    split_ifs with hk
    · simp [hk, h]
    · rw [List.filter_cons, List.filter_cons, ih]

theorem filter_erase {p : String → Bool} {key : String} (h : p key = false) :
    List.filter (fun entry => p entry.1) (entries.erase key) =
      List.filter (fun entry => p entry.1) entries := by
  rw [erase, List.filter_filter]
  apply List.filter_congr
  intro entry _
  by_cases hk : entry.1 = key
  · simp [hk, h]
  · simp [hk]

theorem get?_eq_of_erase_eq {entries entries' : Entries} {key other : String}
    (h : entries'.erase other = entries.erase other) (hne : key ≠ other) :
    entries'.get? key = entries.get? key := by
  rw [← get?_erase_of_ne entries' hne, h, get?_erase_of_ne entries hne]

end Entries

namespace Field

/-- A field with another value rule: its keys are where they were, and all entries but the value
among the rules are what they were. -/
structure RuleReplaced (field : Field) (rule : String) (field' : Field) : Prop where
  keys : Entries.keys field' = Entries.keys field
  others : Entries.erase field' "rules" = Entries.erase field "rules"
  rules : ∃ rules rules' : Entries,
    field.get? "rules" = some (.object rules) ∧ field'.get? "rules" = some (.object rules') ∧
    rules'.keys = rules.keys ∧ rules'.erase "value" = rules.erase "value" ∧
    rules'.get? "value" = some (.string rule)

variable {field : Field}

/-- A field with a value rule has rules, and the value is a text. -/
theorem valueRule?_eq_some_iff {rule : String} : field.valueRule? = some rule ↔
    ∃ rules : Entries, field.get? "rules" = some (.object rules) ∧
      rules.get? "value" = some (.string rule) := by
  rw [valueRule?]
  constructor
  · intro h
    obtain ⟨value, hvalue, htext⟩ := Option.bind_eq_some_iff.mp h
    obtain ⟨rules, hrules, hget⟩ := Option.bind_eq_some_iff.mp hvalue
    cases rules with
    | object rules =>
      cases value with
      | string text =>
        cases htext
        exact ⟨rules, hrules, hget⟩
      | _ => cases htext
    | _ => cases hget
  · rintro ⟨rules, hrules, hvalue⟩
    rw [hrules]
    simp [Json.get?, hvalue, Json.asString?]

theorem setValueRule_of_rules {rules : Entries} (h : field.get? "rules" = some (.object rules))
    (rule : String) : field.setValueRule rule =
      Entries.insert field "rules" (.object (rules.insert "value" (.string rule))) := by
  rw [setValueRule, h]

theorem ruleReplaced_setValueRule {old : String} (h : field.valueRule? = some old)
    (rule : String) : RuleReplaced field rule (field.setValueRule rule) := by
  obtain ⟨rules, hrules, hvalue⟩ := valueRule?_eq_some_iff.mp h
  rw [setValueRule_of_rules hrules]
  exact {
    keys := Entries.keys_insert _ _ hrules
    others := Entries.erase_insert _ _ _
    rules := ⟨rules, _, hrules, Entries.get?_insert_self _ _ _, Entries.keys_insert _ _ hvalue,
      Entries.erase_insert _ _ _, Entries.get?_insert_self _ _ _⟩ }

theorem RuleReplaced.valueRule? {rule : String} {field' : Field}
    (h : RuleReplaced field rule field') : field'.valueRule? = some rule := by
  obtain ⟨-, rules, -, hrules, -, -, hvalue⟩ := h.rules
  exact valueRule?_eq_some_iff.mpr ⟨rules, hrules, hvalue⟩

theorem get?_setValueRule {key : String} (h : key ≠ "rules") (field : Field) (rule : String) :
    (field.setValueRule rule).get? key = field.get? key := by
  rw [setValueRule]
  split
  · exact Entries.get?_insert_of_ne _ _ h
  · rfl

theorem setValueRule_setValueRule (field : Field) (rule rule' : String) :
    (field.setValueRule rule).setValueRule rule' = field.setValueRule rule' := by
  cases hrules : field.get? "rules" with
  | none =>
    have hset : ∀ rule, field.setValueRule rule = field := fun rule => by
      rw [setValueRule, hrules]
    rw [hset, hset]
  | some value =>
    cases value with
    | object rules =>
      have hget : (field.setValueRule rule).get? "rules" =
          some (.object (Entries.insert rules "value" (.string rule))) := by
        rw [setValueRule_of_rules hrules]
        exact Entries.get?_insert_self _ _ _
      rw [setValueRule_of_rules hget, setValueRule_of_rules hrules, setValueRule_of_rules hrules,
        Entries.insert_insert, Entries.insert_insert]
    | _ =>
      have hset : ∀ rule, field.setValueRule rule = field := fun rule => by
        rw [setValueRule, hrules]
      rw [hset, hset]

theorem formula?_eq_some_iff {formula : String} : field.formula? = some formula ↔
    field.valueRule? = some formula ∧ isFormula formula = true := by
  rw [formula?, Option.filter_eq_some_iff]

theorem formula?_eq_none {rule : String} (h : field.valueRule? = some rule)
    (hr : isFormula rule = false) : field.formula? = none := by
  rw [formula?, h, Option.filter_some, hr]
  rfl

end Field

end AdaptiveForm
