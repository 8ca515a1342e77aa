import AdaptiveForm.Proofs.Formula.Spelling
import AdaptiveForm.Proofs.Text.LetterCase
import AdaptiveForm.Rule.Compile
import Mathlib.Data.List.Basic
import Mathlib.Tactic.SplitIfs

/-!
# Texts of a sheet in a formula

A sheet writes a text between double quotes, and a double quote inside it twice; a formula does the
same with single quotes.  A cell becomes a formula by turning all its double quotes into single
ones, whether they enclose a text or stand inside it, and the single quotes of a text stay as they
are.  So a double quote inside comes back as a single one, and a single quote ends its text: a text
is read as itself if it has none of the two, and not otherwise, `parse_sheetLiteral_iff`.
-/

namespace AdaptiveForm.Rule

open AdaptiveForm.Text
open AdaptiveForm.Formula (Expr doubled)

/-- The literal of a text in a sheet: between double quotes, each of its own written twice. -/
def sheetLiteral (content : String) : String :=
  String.ofList ('"' :: doubled '"' content.toList ++ ['"'])

variable {cs : List Char} {content : String}

/-! ### Quotes -/

theorem singleQuote_of_ne {c : Char} (h : c ≠ '"') : singleQuote c = c := by
  rw [singleQuote, if_neg h]

theorem map_singleQuote_of_notMem (h : '"' ∉ cs) : cs.map singleQuote = cs := by
  rw [List.map_congr_left (g := id), List.map_id]
  rintro c hc
  exact singleQuote_of_ne fun hq => h (hq ▸ hc)

theorem notMem_map_singleQuote (cs : List Char) : '"' ∉ cs.map singleQuote := by
  rw [List.mem_map]
  rintro ⟨c, -, hc⟩
  rw [singleQuote] at hc
  split_ifs at hc
  · cases hc
  · contradiction

theorem map_singleQuote_doubled (h : '\'' ∉ cs) :
    (doubled '"' cs).map singleQuote = doubled '\'' (cs.map singleQuote) := by
  induction cs with
  | nil => rfl
  | cons c cs ih =>
    rw [List.mem_cons, not_or] at h
    by_cases hc : c = '"'
    · subst hc
      have hquote : singleQuote '"' = '\'' := rfl
      rw [Formula.doubled_quote, List.map_cons, List.map_cons, ih h.2, List.map_cons, hquote,
        Formula.doubled_quote]
    · rw [Formula.doubled_cons hc, List.map_cons, List.map_cons, singleQuote_of_ne hc,
        Formula.doubled_cons (Ne.symm h.1), ih h.2]

/-- **A literal of a sheet as a formula**: its quotes are single ones, wherever they stand. -/
theorem normalizeFormula_sheetLiteral (h : lowerCase content = content) :
    normalizeFormula ("=" ++ sheetLiteral content) =
      String.ofList ('\'' :: (doubled '"' content.toList).map singleQuote ++ ['\'']) := by
  have hcell : dropEquals ("=" ++ sheetLiteral content).toList =
      '"' :: doubled '"' content.toList ++ ['"'] := by
    simp [sheetLiteral, dropEquals]
  have hquote : singleQuote '"' = '\'' := rfl
  rw [normalizeFormula, hcell, List.map_append, List.map_cons, List.map_singleton, hquote,
    lowerCase_eq_self_iff, String.toList_ofList]
  rw [lowerCase_eq_self_iff] at h
  have hlower : ∀ c ∈ (doubled '"' content.toList).map singleQuote, IsLower c := by
    intro c hc
    obtain ⟨d, hd, rfl⟩ := List.mem_map.mp hc
    rw [singleQuote]
    split_ifs
    · decide
    · exact h d (Formula.mem_doubled.mp hd)
  intro c hc
  rw [List.cons_append, List.mem_cons, List.mem_append, List.mem_singleton] at hc
  rcases hc with rfl | hc | rfl
  · decide
  · exact hlower c hc
  · decide

/-! ### Reading -/

/-- A formula that begins and ends with a quote is read as a text if there is nothing else in it. -/
theorem parse_enclosed_iff {body : List Char} :
    Expr.parse (String.ofList ('\'' :: body ++ ['\''])) = .ok (.text content) ↔
      body = doubled '\'' content.toList := by
  rw [Formula.parse_eq_text_iff, String.toList_ofList]
  constructor
  · rintro ⟨before, after, heq, hbefore, hafter⟩
    have hspace : isSpace '\'' = false := by decide
    have hnil : before = [] := by
      cases before with
      | nil => rfl
      | cons c before =>
        obtain ⟨rfl, -⟩ := List.cons.inj heq
        simp [hspace] at hbefore
    have hnil' : after = [] := by
      rcases List.eq_nil_or_concat' after with rfl | ⟨after, c, rfl⟩
      · rfl
      · rw [← List.append_assoc] at heq
        obtain ⟨-, hlast⟩ := List.append_inj' heq rfl
        obtain rfl := List.singleton_inj.mp hlast
        have := hafter '\'' (by simp)
        rw [hspace] at this
        cases this
    subst hnil hnil'
    simpa using heq
  · rintro rfl
    exact ⟨[], [], by simp, nofun, nofun⟩

/-- **Texts of a sheet.** A text that is in lower case is read as itself from its literal if it has
no quotes in it, single or double, and not otherwise. Without single quotes a text is read, but its
double quotes have become single ones. -/
theorem parse_sheetLiteral_iff (h : lowerCase content = content) :
    (Expr.parse (normalizeFormula ("=" ++ sheetLiteral content)) = .ok (.text content) ↔
      '\'' ∉ content.toList ∧ '"' ∉ content.toList) ∧
    ('\'' ∉ content.toList →
      Expr.parse (normalizeFormula ("=" ++ sheetLiteral content)) =
        .ok (.text (String.ofList (content.toList.map singleQuote)))) := by
  rw [normalizeFormula_sheetLiteral h]
  have hread : '\'' ∉ content.toList →
      Expr.parse (String.ofList
        ('\'' :: (doubled '"' content.toList).map singleQuote ++ ['\''])) =
          .ok (.text (String.ofList (content.toList.map singleQuote))) := by
    intro hsingle
    rw [parse_enclosed_iff, String.toList_ofList, map_singleQuote_doubled hsingle]
  refine ⟨⟨fun htext => ?_, fun ⟨hsingle, hdouble⟩ => ?_⟩, hread⟩
  · rw [parse_enclosed_iff] at htext
    have hdouble : '"' ∉ content.toList := by
      rw [← Formula.mem_doubled, ← htext]
      exact notMem_map_singleQuote _
    rw [Formula.doubled_eq_self_iff.mpr hdouble, map_singleQuote_of_notMem hdouble] at htext
    exact ⟨Formula.doubled_eq_self_iff.mp htext.symm, hdouble⟩
  · have := hread hsingle
    rwa [map_singleQuote_of_notMem hdouble, String.ofList_toList] at this

theorem parse_sheetLiteral_iff_length :
    Expr.parse (normalizeFormula ("=" ++ sheetLiteral "größe ≤ 5 m")) =
        .ok (.text "größe ≤ 5 m") ∧
    Expr.parse (normalizeFormula ("=" ++ sheetLiteral "5\" rack")) = .ok (.text "5' rack") := by
  have hplain : lowerCase "größe ≤ 5 m" = "größe ≤ 5 m" := rfl
  have hinch : lowerCase "5\" rack" = "5\" rack" := rfl
  exact ⟨(parse_sheetLiteral_iff hplain).1.mpr (by decide),
    (parse_sheetLiteral_iff hinch).2 (by decide)⟩

/-- **Quotes break texts of a sheet.** Behind a single quote the formula has no end, a double quote
comes back as a single one, and what stands between two single quotes is read as a formula. -/
theorem parse_sheetLiteral_ne :
    lowerCase "it's" = "it's" ∧ sheetLiteral "it's" = "\"it's\"" ∧
    Expr.parse (normalizeFormula "=\"it's\"") = .error (.malformed 5 .unterminatedText) ∧
    lowerCase "a\"b" = "a\"b" ∧ sheetLiteral "a\"b" = "\"a\"\"b\"" ∧
    Expr.parse (normalizeFormula "=\"a\"\"b\"") = .ok (.text "a'b") ∧
    lowerCase "' & b2 & '" = "' & b2 & '" ∧ sheetLiteral "' & b2 & '" = "\"' & b2 & '\"" ∧
    Expr.parse (normalizeFormula "=\"' & b2 & '\"") = .ok (.binary .concat
      (.binary .concat (.text "") (.cell ⟨"b", 2⟩)) (.text "")) := by
  refine ⟨rfl, rfl, ?_, rfl, rfl, ?_, rfl, rfl, ?_⟩ <;> with_unfolding_all rfl

end AdaptiveForm.Rule
