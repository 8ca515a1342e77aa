import AdaptiveForm.Proofs.Rule.Lexeme
import AdaptiveForm.Rule.Compile

/-!
# Where literals end

A text is written between single quotes, with a backslash before every quote in it.  The reader of
rules takes a backslash together with the character behind it, whatever that is, so that a quote of
the text does not end the literal.  A backslash of the text is written as it is, and it takes along
what stands behind it, too: with another character it is lost, but at the end of the text it takes
the closing quote, and before a quote it takes the backslash that was to keep the quote.

So a literal ends where it was written to end if its text is `Paired`, and it stands for its text
only if there is no backslash at all, `exprText_readsBack_iff`.
-/

namespace AdaptiveForm.Rule

open AdaptiveForm.Formula (Expr)

/-- Taken from the left, each backslash with the character behind it, no backslash takes a quote and
none is left at the end. -/
inductive Paired : List Char → Prop
  | nil : Paired []
  | char {c : Char} {cs : List Char} (hc : c ≠ '\\') (h : Paired cs) : Paired (c :: cs)
  | pair {c : Char} {cs : List Char} (hc : c ≠ '\'') (h : Paired cs) : Paired ('\\' :: c :: cs)

/-- In front of `rest` the literal is one quoted token, and its last character is the last one of
the token. -/
def EndsWhole (literal : String) (rest : List Char) : Prop :=
  ∃ body, literal.toList = '\'' :: body ∧ quotedWidth '\'' (body ++ rest) = some body.length

/-- Besides, what stands between its quotes, less the backslashes that escape, is the content. -/
def ReadsBack (content literal : String) (rest : List Char) : Prop :=
  EndsWhole literal rest ∧ unquoted literal.toList = content

/-! ### The end of a literal -/

theorem quotedWidth_cons {quote c : Char} (h : c ≠ '\\') (cs : List Char) :
    quotedWidth quote (c :: cs) =
      if c = quote then some 1 else (quotedWidth quote cs).map (· + 1) := by
  rw [quotedWidth]
  intro d cs' hc
  cases hc
  exact absurd rfl h

theorem quotedWidth_backslash (quote c : Char) (cs : List Char) :
    quotedWidth quote ('\\' :: c :: cs) = (quotedWidth quote cs).map (· + 2) := by
  rw [quotedWidth]

theorem quotedWidth_ne_zero (quote : Char) (cs : List Char) : quotedWidth quote cs ≠ some 0 := by
  fun_cases quotedWidth quote cs <;> simp

theorem quotedWidth_le_length {quote : Char} {cs : List Char} {width : Nat}
    (h : quotedWidth quote cs = some width) : width ≤ cs.length := by
  fun_induction quotedWidth quote cs generalizing width with
  | case1 => cases h
  | case2 c cs ih =>
    obtain ⟨width, hw, rfl⟩ := Option.map_eq_some_iff.mp h
    have := ih hw
    simp only [List.length_cons]
    omega
  | case3 cs hescape =>
    cases h
    simp
  | case4 c cs hescape hquote ih =>
    obtain ⟨width, hw, rfl⟩ := Option.map_eq_some_iff.mp h
    have := ih hw
    simp only [List.length_cons]
    omega

theorem escapeQuotes_quote (cs : List Char) :
    escapeQuotes ('\'' :: cs) = '\\' :: '\'' :: escapeQuotes cs := by
  rw [escapeQuotes, if_pos rfl]

theorem escapeQuotes_cons {c : Char} (h : c ≠ '\'') (cs : List Char) :
    escapeQuotes (c :: cs) = c :: escapeQuotes cs := by
  rw [escapeQuotes, if_neg h]

variable {cs rest : List Char}

theorem Paired.quotedWidth_eq (h : Paired cs) (rest : List Char) :
    quotedWidth '\'' (escapeQuotes cs ++ '\'' :: rest) = some ((escapeQuotes cs).length + 1) := by
  induction h with
  | nil => simp [escapeQuotes, quotedWidth_cons]
  | @char c cs hc _ ih =>
    by_cases hq : c = '\''
    · subst hq
      rw [escapeQuotes_quote, List.cons_append, List.cons_append, quotedWidth_backslash, ih]
      simp
    · rw [escapeQuotes_cons hq, List.cons_append, quotedWidth_cons hc, if_neg hq, ih]
      simp
  | @pair c cs hc _ ih =>
    rw [escapeQuotes_cons (by decide), escapeQuotes_cons hc, List.cons_append, List.cons_append,
      quotedWidth_backslash, ih]
    simp

/-- **A literal that ends where it was written to end** has its backslashes in pairs. -/
theorem paired_of_quotedWidth_eq : ∀ {cs : List Char},
    quotedWidth '\'' (escapeQuotes cs ++ '\'' :: rest) = some ((escapeQuotes cs).length + 1) →
    Paired cs
  | [], _ => .nil
  | c :: cs, h => by
    by_cases hq : c = '\''
    · subst hq
      rw [escapeQuotes_quote, List.cons_append, List.cons_append, quotedWidth_backslash] at h
      exact .char (by decide) (paired_of_quotedWidth_eq (by simpa using h))
    rw [escapeQuotes_cons hq, List.cons_append] at h
    by_cases hb : c = '\\'
    · subst hb
      cases cs with
      | nil =>
        -- the closing quote is taken along
        rw [escapeQuotes, List.nil_append, quotedWidth_backslash] at h
        simp [quotedWidth_ne_zero] at h
      | cons d cs =>
        by_cases hd : d = '\''
        · -- the quote of the text ends the literal
          subst hd
          rw [escapeQuotes_quote, List.cons_append, List.cons_append, quotedWidth_backslash,
            quotedWidth_cons (by decide), if_pos rfl] at h
          simp at h
        · rw [escapeQuotes_cons hd, List.cons_append, quotedWidth_backslash] at h
          exact .pair hd (paired_of_quotedWidth_eq (by simpa using h))
    · rw [quotedWidth_cons hb, if_neg hq] at h
      exact .char hb (paired_of_quotedWidth_eq (by simpa using h))

theorem toList_quoteText (content : String) :
    (quoteText content).toList = '\'' :: (escapeQuotes content.toList ++ ['\'']) := by
  simp [quoteText]

theorem endsWhole_quoteText_iff {content : String} :
    EndsWhole (quoteText content) rest ↔ Paired content.toList := by
  have hwidth : EndsWhole (quoteText content) rest ↔
      quotedWidth '\'' (escapeQuotes content.toList ++ '\'' :: rest) =
        some ((escapeQuotes content.toList).length + 1) := by
    simp [EndsWhole, toList_quoteText]
  rw [hwidth]
  exact ⟨paired_of_quotedWidth_eq, fun h => h.quotedWidth_eq rest⟩

/-! ### The content of a literal -/

theorem unescape_cons {c : Char} (h : c ≠ '\\') (cs : List Char) :
    unescape (c :: cs) = c :: unescape cs := by
  cases cs with
  | nil => rfl
  | cons d cs => rw [unescape, if_neg h]

theorem unescape_backslash (c : Char) (cs : List Char) :
    unescape ('\\' :: c :: cs) = c :: unescape cs := by
  rw [unescape, if_pos rfl]

/-- The quotes of a text are given their backslashes and lose them again; its own ones are lost. -/
theorem Paired.unescape_escapeQuotes (h : Paired cs) :
    unescape (escapeQuotes cs) = unescape cs := by
  induction h with
  | nil => rfl
  | @char c cs hc _ ih =>
    by_cases hq : c = '\''
    · subst hq
      rw [escapeQuotes_quote, unescape_backslash, ih, unescape_cons hc]
    · rw [escapeQuotes_cons hq, unescape_cons hc, unescape_cons hc, ih]
  | pair hc _ ih =>
    rw [escapeQuotes_cons (by decide), escapeQuotes_cons hc, unescape_backslash, unescape_backslash,
      ih]

theorem length_unescape_le (cs : List Char) : (unescape cs).length ≤ cs.length := by
  fun_induction unescape cs with grind

theorem Paired.unescape_eq_iff (h : Paired cs) : unescape cs = cs ↔ '\\' ∉ cs := by
  induction h with
  | nil => simp [unescape]
  | char hc _ ih => simp [unescape_cons hc, ih, Ne.symm hc]
  | @pair c cs _ _ _ =>
    have hlength := length_unescape_le cs
    rw [unescape_backslash]
    simp only [List.mem_cons, true_or, not_true_eq_false, iff_false]
    intro heq
    have := congrArg List.length heq
    simp only [List.length_cons] at this
    omega

theorem paired_of_notMem (h : '\\' ∉ cs) : Paired cs := by
  induction cs with
  | nil => exact .nil
  | cons c cs ih =>
    rw [List.mem_cons, not_or] at h
    exact .char (Ne.symm h.1) (ih h.2)

theorem unquoted_quoteText (content : String) :
    unquoted (quoteText content).toList =
      String.ofList (unescape (escapeQuotes content.toList)) := by
  simp [unquoted, toList_quoteText]

/-- **The literal of a text.** Whatever stands behind it, the literal ends where it was written to
end exactly if the backslashes of the text are paired, and it stands for the text as well exactly if
there are none. -/
theorem exprText_readsBack_iff (paths : RowPaths) (content : String) :
    ∃ literal, exprText paths (.text content) = .ok literal ∧ ∀ rest,
      (EndsWhole literal rest ↔ Paired content.toList) ∧
      (ReadsBack content literal rest ↔ '\\' ∉ content.toList) := by
  refine ⟨quoteText content, by rw [exprText], ?_⟩
  intro rest
  refine ⟨endsWhole_quoteText_iff, ?_⟩
  rw [ReadsBack, endsWhole_quoteText_iff, unquoted_quoteText, ← String.toList_inj,
    String.toList_ofList]
  constructor
  · rintro ⟨hpaired, hcontent⟩
    rw [hpaired.unescape_escapeQuotes] at hcontent
    exact hpaired.unescape_eq_iff.mp hcontent
  · intro h
    have hpaired := paired_of_notMem h
    exact ⟨hpaired, by rw [hpaired.unescape_escapeQuotes, hpaired.unescape_eq_iff.mpr h]⟩

/-- **A backslash breaks the literal of its text.** A text of one backslash, as a formula can hold
it, takes the closing quote along, so that its literal has no end; and behind a backslash the quote
of a text ends the literal before its last character. -/
theorem exprText_not_readsBack :
    Expr.parse "'\\'" = .ok (.text "\\") ∧
    exprText (fun _ => none) (.text "\\") = .ok "'\\'" ∧
    quotedWidth '\'' "\\'".toList = none ∧ ¬ ReadsBack "\\" "'\\'" [] ∧
    Expr.parse "'\\'''" = .ok (.text "\\'") ∧
    exprText (fun _ => none) (.text "\\'") = .ok "'\\\\''" ∧
    quotedWidth '\'' "\\\\''".toList = some 3 ∧ ¬ ReadsBack "\\'" "'\\\\''" [] := by
  have hend : ¬ Paired "\\".toList := by
    intro h
    cases h
    contradiction
  have hquote : ¬ Paired "\\'".toList := by
    intro h
    cases h <;> contradiction
  refine ⟨by with_unfolding_all rfl, by decide +kernel, by decide, ?_,
    by with_unfolding_all rfl, by decide +kernel, by decide, ?_⟩
  · exact fun h => hend (endsWhole_quoteText_iff.mp h.1)
  · exact fun h => hquote (endsWhole_quoteText_iff.mp h.1)

end AdaptiveForm.Rule
