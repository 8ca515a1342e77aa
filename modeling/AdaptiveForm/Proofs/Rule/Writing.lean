import AdaptiveForm.Proofs.Rule.Meaning
import Mathlib.Data.List.Forall2

/-!
# Written rules

`Writes T text goal` says that a text is a piece of a rule, spelled by tokens that are derived as
the goal, with chains only that group in one way under the table `T`.  Here is one lemma for every
way in which a rule is written out of pieces.
-/

namespace AdaptiveForm.Rule

open AdaptiveForm.Formula (BinaryOp)

/-- The text is spelled by tokens that are derived as the goal, every chain grouping in one way. -/
def Writes (T : Operators) (text : String) (goal : Goal) : Prop :=
  ∃ ls, Spelled text.toList ls ∧ Derives (GroupsOnly T) ls goal

variable {T : Operators}

theorem Writes.derives {text : String} {term : Term} (h : Writes T text (.rule term)) :
    ∃ ls, lexemes text.toList = some ls ∧ Derives (GroupsOnly T) ls (.rule term) := by
  obtain ⟨ls, hs, hd⟩ := h
  exact ⟨ls, hs.lexemes, hd⟩

/-! ### Operands -/

theorem Writes.rule {text : String} {term : Term} (h : Writes T text (.operand term)) :
    Writes T text (.rule term) := by
  obtain ⟨ls, hs, hd⟩ := h
  exact ⟨ls, hs, .rule (.last hd) (groupsOnly_nil term)⟩

theorem Writes.operand {text : String} {term : Term} (h : Writes T text (.primary term)) :
    Writes T text (.operand term) := by
  obtain ⟨ls, hs, hd⟩ := h
  have hplain := Derives.plain hd .done
  rw [List.append_nil] at hplain
  exact ⟨ls, hs, hplain⟩

theorem Writes.number {digits : String} (h : isNumeral digits = true) :
    Writes T digits (.primary (.number digits)) :=
  ⟨_, spelled_numeral h, .number⟩

theorem Writes.text {content : String} (h : ∀ c ∈ content.toList, c ≠ '\\') :
    Writes T (quoteText content) (.primary (.text content)) :=
  ⟨_, spelled_quoteText h, .text⟩

theorem Writes.name {name : String} (h : isWord name.toList = true) :
    Writes T name (.primary (.name name)) := by
  have hs := spelled_word h
  rw [String.ofList_toList] at hs
  exact ⟨_, hs, .name rfl⟩

theorem derives_members {G : Grouping} (owner : Term) (names : List (List Char)) :
    Derives G (memberLexemes names)
      (.suffixes owner ((names.map String.ofList).foldl .member owner)) := by
  induction names generalizing owner with
  | nil => exact .done
  | cons name names ih => exact .member rfl (ih (.member owner (String.ofList name)))

theorem Writes.path {path : String} (h : isPath path = true) :
    Writes T path (.operand (.ofPath path)) := by
  obtain ⟨root, names, hparts, hs⟩ := spelled_path h
  refine ⟨_, hs, ?_⟩
  rw [Term.ofPath, Text.split, hparts, List.map_cons]
  exact .plain .context (derives_members _ names)

theorem Writes.paren {text : String} {term : Term} (h : Writes T text (.rule term)) :
    Writes T ("(" ++ text ++ ")") (.primary term) := by
  obtain ⟨ls, hs, hd⟩ := h
  refine ⟨.leftParen :: ls ++ [.rightParen], ?_, .group hd⟩
  simpa [String.toList_append] using hs.paren

theorem Writes.neg {text : String} {term : Term} (h : Writes T text (.operand term)) :
    Writes T ("-" ++ text) (.operand (.neg term)) := by
  obtain ⟨ls, hs, hd⟩ := h
  refine ⟨.minus :: ls, ?_, .neg hd⟩
  simpa [String.toList_append] using hs.minus

/-! ### Chains -/

theorem Writes.binary {op : BinaryOp} {symbol left right : String} {l r : Term}
    (hop : symbol? op = some symbol) (hl : Writes T left (.operand l))
    (hr : Writes T right (.operand r)) :
    Writes T (left ++ " " ++ symbol ++ " " ++ right) (.rule (.binary symbol l r)) := by
  obtain ⟨ls, hs, hd⟩ := hl
  obtain ⟨ls', hs', hd'⟩ := hr
  obtain ⟨lexeme, hsymbol, hspelled⟩ := hs.symbol hop hs'
  refine ⟨ls ++ lexeme :: ls', ?_, .rule (.more hd hsymbol (.last hd')) (groupsOnly_single _ _ _)⟩
  simpa [String.toList_append, List.append_assoc] using hspelled

theorem Writes.chain : ∀ {texts : List String} {first : Term} {rest : List Term},
    List.Forall₂ (fun text term => Writes T text (.operand term)) texts (first :: rest) →
    Writes T (String.intercalate " & " texts) (.chain first (links "&" rest)) := by
  intro texts first rest h
  induction rest generalizing texts first with
  | nil =>
    obtain ⟨text, texts, ⟨ls, hs, hd⟩, hnil, rfl⟩ := List.forall₂_cons_right_iff.mp h
    rw [List.forall₂_nil_right_iff] at hnil
    rw [hnil, String.intercalate_singleton]
    exact ⟨ls, hs, .last hd⟩
  | cons second rest ih =>
    obtain ⟨text, texts, ⟨ls, hs, hd⟩, htail, rfl⟩ := List.forall₂_cons_right_iff.mp h
    obtain ⟨ls', hs', hd'⟩ := ih htail
    have hop : symbol? .concat = some "&" := rfl
    obtain ⟨lexeme, hsymbol, hspelled⟩ := hs.symbol hop hs'
    have hne : texts ≠ [] := by
      rintro rfl
      cases htail
    refine ⟨ls ++ lexeme :: ls', ?_, .more hd hsymbol hd'⟩
    rw [String.intercalate_cons_of_ne_nil hne]
    simpa [String.toList_append, List.append_assoc] using hspelled

theorem Writes.join {texts : List String} {first : Term} {rest : List Term}
    (h : List.Forall₂ (fun text term => Writes T text (.operand term)) texts (first :: rest)) :
    Writes T ("(" ++ String.intercalate " & " texts ++ ")")
      (.primary (joined T "&" first rest)) := by
  obtain ⟨ls, hs, hd⟩ := Writes.chain h
  exact Writes.paren ⟨ls, hs, .rule hd (groupsOnly_joined "&" first rest)⟩

/-! ### Lists and calls -/

def WritesEach (T : Operators) : List String → List Term → Prop :=
  List.Forall₂ fun text term => Writes T text (.rule term)

theorem WritesEach.items : ∀ {texts : List String} {first : Term} {rest : List Term},
    WritesEach T texts (first :: rest) → Writes T (commaList texts) (.items (first :: rest)) := by
  intro texts first rest h
  induction rest generalizing texts first with
  | nil =>
    obtain ⟨text, texts, ⟨ls, hs, hd⟩, hnil, rfl⟩ := List.forall₂_cons_right_iff.mp h
    rw [List.forall₂_nil_right_iff] at hnil
    rw [hnil, commaList, String.intercalate_singleton]
    exact ⟨ls, hs, .item hd⟩
  | cons second rest ih =>
    obtain ⟨text, texts, ⟨ls, hs, hd⟩, htail, rfl⟩ := List.forall₂_cons_right_iff.mp h
    obtain ⟨ls', hs', hd'⟩ := ih htail
    have hne : texts ≠ [] := by
      rintro rfl
      cases htail
    refine ⟨ls ++ .comma :: ls', ?_, .items hd hd'⟩
    rw [commaList, String.intercalate_cons_of_ne_nil hne]
    simpa [commaList, String.toList_append, List.append_assoc] using hs.comma hs'

theorem WritesEach.args {texts : List String} {terms : List Term} (h : WritesEach T texts terms) :
    Writes T (commaList texts) (.args terms) := by
  cases terms with
  | nil =>
    cases h
    exact ⟨[], spelled_nil, .noArgs⟩
  | cons first rest =>
    obtain ⟨ls, hs, hd⟩ := h.items
    exact ⟨ls, hs, .args hd⟩

theorem WritesEach.list {texts : List String} {terms : List Term} (h : WritesEach T texts terms) :
    Writes T ("[" ++ commaList texts ++ "]") (.primary (.list terms)) := by
  obtain ⟨ls, hs, hd⟩ := h.args
  refine ⟨.leftBracket :: ls ++ [.rightBracket], ?_, .list hd⟩
  simpa [String.toList_append] using hs.bracket

/-- The rule language has the function, under a name that is a word. -/
def IsCallable (function : String) : Prop :=
  isWord function.toList = true ∧ isKnown function = true

instance (function : String) : Decidable (IsCallable function) := by
  unfold IsCallable
  infer_instance

theorem WritesEach.call {function : String} {texts : List String} {terms : List Term}
    (hf : IsCallable function) (h : WritesEach T texts terms) :
    Writes T (function ++ "(" ++ commaList texts ++ ")") (.primary (.call function terms)) := by
  obtain ⟨ls, hs, hd⟩ := h.args
  have hcall := hs.call hf.1
  rw [String.ofList_toList] at hcall
  refine ⟨_, ?_, .call hf.2 hd⟩
  simpa [String.toList_append, List.append_assoc] using hcall

end AdaptiveForm.Rule
