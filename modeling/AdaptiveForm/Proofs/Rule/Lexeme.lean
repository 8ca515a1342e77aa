import AdaptiveForm.Rule.Token
import Mathlib.Tactic.SplitIfs
import Mathlib.Tactic.IntervalCases

/-!
# Tokens with their text

The check of a rule keeps of a token only what it needs.  To say what a rule means, the digits of
a number, the content of a text and the symbol of an operator are needed too.  A `Lexeme` is a
token with these; `lexemes` splits a rule the way `tokensFrom` does, by the same first token, and
`tokensFrom_lexemes` says that the two give the same kinds.
-/

namespace AdaptiveForm.Text

theorem CodePoints.mem_of_has {ranges : CodePoints} {n : Nat} (h : ranges.has n = true) :
    ∃ range ∈ ranges, range.1 ≤ n ∧ n ≤ range.2 := by
  induction ranges with
  | nil => cases h
  | cons range ranges ih =>
    obtain ⟨low, high⟩ := range
    rw [CodePoints.has] at h
    split_ifs at h with hlow
    simp only [Bool.or_eq_true, decide_eq_true_eq] at h
    rcases h with h | h
    · exact ⟨_, List.mem_cons_self, Nat.le_of_not_lt hlow, h⟩
    · obtain ⟨range, hr, hb⟩ := ih h
      exact ⟨range, List.mem_cons_of_mem _ hr, hb⟩

end AdaptiveForm.Text

namespace AdaptiveForm.Rule

open AdaptiveForm.Text

/-! ### Lexemes -/

inductive Lexeme where
  | number (digits : String)
  | text (content : String)
  | literal (source : String)
  | ident (name : String)
  | quoted (name : String)
  | context (name : String)
  | dot
  | comma
  | colon
  | leftParen
  | rightParen
  | leftBracket
  | rightBracket
  | leftBrace
  | rightBrace
  | not
  | minus
  | operator (symbol : String)
  deriving DecidableEq, Repr

@[simp] def Lexeme.kind : Lexeme → Kind
  | .number _ => .number
  | .text _ => .text
  | .literal _ => .literal
  | .ident name => .ident name
  | .quoted _ => .ident ""
  | .context name => .context name
  | .dot => .dot
  | .comma => .comma
  | .colon => .colon
  | .leftParen => .leftParen
  | .rightParen => .rightParen
  | .leftBracket => .leftBracket
  | .rightBracket => .rightBracket
  | .leftBrace => .leftBrace
  | .rightBrace => .rightBrace
  | .not => .not
  | .minus => .minus
  | .operator _ => .operator

/-- The characters that escaped ones stand for: a backslash gives way to the character behind it. -/
def unescape : List Char → List Char
  | [] => []
  | [c] => [c]
  | c :: d :: cs => if c = '\\' then d :: unescape cs else c :: unescape (d :: cs)

def unquoted (spelling : List Char) : String :=
  String.ofList (unescape spelling.tail.dropLast)

def Lexeme.of (spelling : List Char) : Kind → Lexeme
  | .number => .number (String.ofList spelling)
  | .text => .text (unquoted spelling)
  | .literal => .literal (unquoted spelling)
  | .ident name => if name = "" then .quoted (unquoted spelling) else .ident name
  | .context name => .context name
  | .dot => .dot
  | .comma => .comma
  | .colon => .colon
  | .leftParen => .leftParen
  | .rightParen => .rightParen
  | .leftBracket => .leftBracket
  | .rightBracket => .rightBracket
  | .leftBrace => .leftBrace
  | .rightBrace => .rightBrace
  | .not => .not
  | .minus => .minus
  | .operator => .operator (String.ofList spelling)

@[simp] theorem Lexeme.kind_of (spelling : List Char) (kind : Kind) :
    (Lexeme.of spelling kind).kind = kind := by
  cases kind with
  | ident name =>
    rw [Lexeme.of]
    split_ifs with h
    · rw [Lexeme.kind, h]
    · rfl
  | _ => rfl

def lexemes : List Char → Option (List Lexeme)
  | [] => some []
  | c :: cs =>
    if isSpace c then lexemes cs
    else
      match headToken c cs with
      | .error _ => none
      | .ok (kind, width) =>
        (lexemes (cs.drop width)).map (Lexeme.of (c :: cs.take width) kind :: ·)
termination_by cs => cs.length
decreasing_by all_goals simp only [List.length_drop, List.length_cons]; omega

theorem lexemes_nil : lexemes [] = some [] := by
  rw [lexemes]

theorem lexemes_space {c : Char} (h : isSpace c = true) (cs : List Char) :
    lexemes (c :: cs) = lexemes cs := by
  rw [lexemes, if_pos h]

theorem lexemes_token {c : Char} (h : isSpace c = false) (spelling : List Char) (kind : Kind)
    {cs rest : List Char} (hcs : cs = spelling ++ rest)
    (ht : headToken c cs = .ok (kind, spelling.length)) :
    lexemes (c :: cs) = (lexemes rest).map (Lexeme.of (c :: spelling) kind :: ·) := by
  subst hcs
  rw [lexemes, if_neg (by simp [h]), ht]
  simp

/-- **A rule has the same tokens with and without their texts.** -/
theorem tokensFrom_lexemes : ∀ (cs : List Char) (position : Nat),
    (tokensFrom position cs).toOption.map (·.map Token.kind) =
      (lexemes cs).map (·.map Lexeme.kind) := by
  intro cs
  induction hn : cs.length using Nat.strong_induction_on generalizing cs with
  | _ n ih =>
    intro position
    cases cs with
    | nil => rw [tokensFrom, lexemes]; rfl
    | cons c cs =>
      rw [tokensFrom, lexemes]
      split_ifs with hspace
      · exact ih cs.length (by simp [← hn]) cs rfl _
      · cases headToken c cs with
        | error fault => rfl
        | ok token =>
          obtain ⟨kind, width⟩ := token
          have hrest := ih (cs.drop width).length (by
            simp only [← hn, List.length_drop, List.length_cons]; omega) _ rfl
              (position + 1 + width)
          simp only
          cases ht : tokensFrom (position + 1 + width) (cs.drop width) with
          | error e =>
            rw [ht] at hrest
            cases hl : lexemes (cs.drop width) with
            | none => rfl
            | some ls => rw [hl] at hrest; cases hrest
          | ok tokens =>
            rw [ht] at hrest
            cases hl : lexemes (cs.drop width) with
            | none => rw [hl] at hrest; cases hrest
            | some ls =>
              rw [hl] at hrest
              simp only [Except.toOption, Option.map_some, Option.some.injEq] at hrest ⊢
              rw [List.map_cons, List.map_cons, hrest, Lexeme.kind_of]

/-- What the check finds in a rule are the kinds of its tokens. -/
theorem exists_scan_iff {rule : String} {kinds : List Kind} :
    (∃ tokens, scan rule = .ok tokens ∧ tokens.map Token.kind = kinds) ↔
      (lexemes rule.toList).map (·.map Lexeme.kind) = some kinds := by
  rw [← tokensFrom_lexemes rule.toList 0, scan]
  cases tokensFrom 0 rule.toList with
  | error e => exact ⟨nofun, nofun⟩
  | ok tokens => simp [Except.toOption]

theorem scan_of_lexemes {rule : String} {ls : List Lexeme} (h : lexemes rule.toList = some ls) :
    ∃ tokens, scan rule = .ok tokens ∧ tokens.map Token.kind = ls.map Lexeme.kind :=
  exists_scan_iff.mpr (by rw [h, Option.map_some])

/-! ### Kinds of characters -/

theorem isSpace_of_isAlphabetic {c : Char} (h : isAlphabetic c = true) : isSpace c = false := by
  cases hs : isSpace c with
  | false => rfl
  | true =>
    obtain ⟨range, hr, hl, hu⟩ := CodePoints.mem_of_has hs
    simp only [isAlphabetic] at h
    generalize c.toNat = n at h hl hu
    simp only [spaceRanges, List.mem_cons, List.not_mem_nil, or_false] at hr
    rcases hr with rfl | rfl | rfl | rfl | rfl | rfl | rfl | rfl | rfl | rfl <;>
      simp only at hl hu <;> interval_cases n <;> revert h <;> decide +kernel

theorem isDigit_of_isAlphabetic {c : Char} (h : isAlphabetic c = true) : c.isDigit = false := by
  cases hd : c.isDigit with
  | false => rfl
  | true =>
    simp only [Char.isDigit, Bool.and_eq_true, decide_eq_true_eq, ge_iff_le] at hd
    have hl : 48 ≤ c.toNat := UInt32.le_iff_toNat_le.mp hd.1
    have hu : c.toNat ≤ 57 := UInt32.le_iff_toNat_le.mp hd.2
    simp only [isAlphabetic] at h
    generalize c.toNat = n at h hl hu
    interval_cases n <;> revert h <;> decide

theorem isSpace_of_isDigit {c : Char} (h : c.isDigit = true) : isSpace c = false := by
  simp only [Char.isDigit, Bool.and_eq_true, decide_eq_true_eq, ge_iff_le] at h
  have hl : 48 ≤ c.toNat := UInt32.le_iff_toNat_le.mp h.1
  have hu : c.toNat ≤ 57 := UInt32.le_iff_toNat_le.mp h.2
  simp only [isSpace]
  generalize c.toNat = n at hl hu
  interval_cases n <;> decide

theorem isQuote_of_isAlphabetic {c : Char} (h : isAlphabetic c = true) : isQuote c = false := by
  cases hq : isQuote c with
  | false => rfl
  | true =>
    simp only [isQuote, Bool.or_eq_true, beq_iff_eq] at hq
    rcases hq with (rfl | rfl) | rfl <;> revert h <;> decide

theorem letter_class {c : Char} (h : isAlphabetic c = true ∨ c = '_') :
    isSpace c = false ∧ isQuote c = false ∧ c.isDigit = false ∧ c ≠ '$' := by
  rcases h with h | rfl
  · refine ⟨isSpace_of_isAlphabetic h, isQuote_of_isAlphabetic h, isDigit_of_isAlphabetic h, ?_⟩
    rintro rfl
    exact absurd h (by decide)
  · decide

end AdaptiveForm.Rule
