import AdaptiveForm.Proofs.Rule.Refusal
import AdaptiveForm.Proofs.Rule.Writing
import Mathlib.Tactic.SplitIfs

/-!
# Rules inside rules

A rule can be written into another one as text: as an argument of a call or as the value of an
entry.  `Cuts` says of what stands behind a text that no token at the end of the text goes on with
it; then the tokens of the text are tokens of the whole, `lexemes_append`.  A comma, a blank and a
closing bracket cut, so that the arguments and entries that are made of rules are split where they
were put together.

`Splits P cs` says that the characters split into tokens with the property `P`.  A text passes the
check if and only if it splits into a rule, `check_eq_ok_iff_splits`, and there is one lemma for
each way of putting a rule into a text.
-/

namespace AdaptiveForm.Rule

open AdaptiveForm.Text

/-! ### Texts with more behind them -/

/-- No token that stands before these characters goes on with them. -/
def Cuts (rest : List Char) : Prop :=
  ∀ c ∈ rest.head?, isWordPart c = false ∧ isNumberPart c = false ∧
    ∀ before, isDoubleOperator before c = false

theorem isDoubleOperator_eq_false {c : Char} (h : c ≠ '=' ∧ c ≠ '&' ∧ c ≠ '|') (before : Char) :
    isDoubleOperator before c = false := by
  simp only [isDoubleOperator, Bool.or_eq_false_iff, Bool.and_eq_false_iff, beq_eq_false_iff_ne]
  grind

theorem cuts_cons {c : Char} (hpart : isWordPart c = false ∧ isNumberPart c = false)
    (h : c ≠ '=' ∧ c ≠ '&' ∧ c ≠ '|') (rest : List Char) : Cuts (c :: rest) := by
  intro d hd
  rw [List.head?_cons, Option.mem_some_iff] at hd
  subst hd
  exact ⟨hpart.1, hpart.2, isDoubleOperator_eq_false h⟩

variable {cs rest : List Char}

theorem quotedWidth_append {quote : Char} (hq : quote ≠ '\\') {width : Nat}
    (h : quotedWidth quote cs = some width) (rest : List Char) :
    quotedWidth quote (cs ++ rest) = some width := by
  fun_induction quotedWidth quote cs generalizing width with
  | case1 => cases h
  | case2 c cs ih =>
    obtain ⟨width, hw, rfl⟩ := Option.map_eq_some_iff.mp h
    rw [List.cons_append, List.cons_append, quotedWidth_backslash, ih hw]
    rfl
  | case3 cs hescape =>
    rw [List.cons_append, quotedWidth_cons hq, if_pos rfl, h]
  | case4 c cs hescape hquote ih =>
    obtain ⟨width, hw, rfl⟩ := Option.map_eq_some_iff.mp h
    have hc : c ≠ '\\' := by
      rintro rfl
      cases cs with
      | nil => cases hw
      | cons d cs => exact hescape d cs rfl rfl
    rw [List.cons_append, quotedWidth_cons hc, if_neg hquote, ih hw]
    rfl

/-- The first token of a text is the first one of the text with more behind it. -/
theorem headToken_append (hr : Cuts rest) {c : Char} {kind : Kind} {width : Nat}
    (h : headToken c cs = .ok (kind, width)) :
    headToken c (cs ++ rest) = .ok (kind, width) := by
  have hword : (cs ++ rest).takeWhile isWordPart = cs.takeWhile isWordPart :=
    takeWhile_append_of_head (fun d hd => (hr d hd).1) cs
  have hnumber : (cs ++ rest).takeWhile isNumberPart = cs.takeWhile isNumberPart :=
    takeWhile_append_of_head (fun d hd => (hr d hd).2.1) cs
  have hdouble : (cs ++ rest).head?.any (isDoubleOperator c) =
      cs.head?.any (isDoubleOperator c) := by
    cases cs with
    | nil =>
      cases rest with
      | nil => rfl
      | cons d rest => exact (hr d rfl).2.2 c
    | cons => rfl
  rw [headToken] at h ⊢
  rw [hword, hnumber, hdouble]
  split_ifs at h ⊢ with hquote
  · have hc : c ≠ '\\' := by
      rintro rfl
      cases hquote
    cases hw : quotedWidth c cs with
    | none =>
      rw [hw] at h
      cases h
    | some found =>
      rw [hw] at h
      rw [quotedWidth_append hc hw]
      exact h
  all_goals exact h

/-- **The tokens of a text are the first ones of the text with more behind it.** -/
theorem lexemes_append (hr : Cuts rest) {ls : List Lexeme} (h : lexemes cs = some ls) :
    lexemes (cs ++ rest) = (lexemes rest).map (ls ++ ·) := by
  induction hn : cs.length using Nat.strong_induction_on generalizing cs ls with
  | _ n ih =>
    cases cs with
    | nil =>
      cases lexemes_nil.symm.trans h
      simp
    | cons c cs =>
      rw [lexemes] at h
      split_ifs at h with hspace
      · rw [List.cons_append, lexemes_space hspace]
        exact ih cs.length (by simp [← hn]) h rfl
      · cases ht : headToken c cs with
        | error fault =>
          rw [ht] at h
          cases h
        | ok token =>
          obtain ⟨kind, width⟩ := token
          rw [ht] at h
          obtain ⟨ls, hls, rfl⟩ := Option.map_eq_some_iff.mp h
          have hwidth := width_le_length ht
          have htail := ih (cs.drop width).length (by
            simp only [← hn, List.length_drop, List.length_cons]; omega) hls rfl
          have htake : (cs.take width).length = width := by simpa using hwidth
          have hcs : cs ++ rest = cs.take width ++ (cs.drop width ++ rest) := by
            rw [← List.append_assoc, List.take_append_drop]
          have htoken := headToken_append hr ht
          rw [← htake] at htoken
          rw [List.cons_append, lexemes_token (by simpa using hspace) _ kind hcs htoken, htail,
            Option.map_map]
          rfl

/-! ### Texts that split -/

def Splits (P : List Lexeme → Prop) (cs : List Char) : Prop :=
  ∃ ls, lexemes cs = some ls ∧ P ls

/-- **A text passes the check if and only if it splits into a rule.** -/
theorem check_eq_ok_iff_splits (rule : String) :
    check rule = .ok () ↔ Splits MakesRule rule.toList := by
  constructor
  · intro h
    cases hscan : scan rule with
    | error e =>
      rw [check, hscan] at h
      cases h
    | ok tokens =>
      obtain ⟨-, hrule⟩ := (check_eq_ok_of_scan hscan).mp h
      obtain ⟨next, hs, hf⟩ := isRule_iff.mp hrule
      obtain ⟨ls, hls, hkinds⟩ := Option.map_eq_some_iff.mp
        (exists_scan_iff.mp ⟨tokens, hscan, rfl⟩)
      rw [← hkinds] at hs
      exact ⟨ls, hls, (Read.start.steps hs).finish hf⟩
  · rintro ⟨ls, hls, h⟩
    obtain ⟨t, h⟩ := h.derives
    exact check_of_derives hls h

variable {P Q : List Lexeme → Prop} {cs' : List Char}

/-- A text and what cuts it off split where they meet. -/
theorem Splits.append (h : Splits P cs) (hr : Cuts cs') (h' : Splits Q cs') {R : List Lexeme → Prop}
    (hR : ∀ ls ls', P ls → Q ls' → R (ls ++ ls')) : Splits R (cs ++ cs') := by
  obtain ⟨ls, hls, hp⟩ := h
  obtain ⟨ls', hls', hq⟩ := h'
  exact ⟨ls ++ ls', by rw [lexemes_append hr hls, hls', Option.map_some], hR ls ls' hp hq⟩

theorem Splits.mark {c : Char} {kind : Kind} (hm : mark? c = some kind)
    (hc : c ∉ ['&', '!', '<', '>']) (h : Splits P cs) (hQ : ∀ ls, P ls → Q (.of [c] kind :: ls)) :
    Splits Q (c :: cs) := by
  obtain ⟨ls, hls, hp⟩ := h
  exact ⟨_, by rw [lexemes_mark hm hc, hls, Option.map_some], hQ ls hp⟩

theorem Splits.blanks {blanks : List Char} (hb : ∀ c ∈ blanks, isSpace c = true)
    (h : Splits P cs) : Splits P (blanks ++ cs) := by
  induction blanks with
  | nil => exact h
  | cons c blanks ih =>
    obtain ⟨ls, hls, hp⟩ := ih fun d hd => hb d (List.mem_cons_of_mem _ hd)
    exact ⟨ls, by rw [List.cons_append, lexemes_space (hb c List.mem_cons_self), hls], hp⟩

theorem Splits.blank_end (h : Splits P cs) : Splits P (cs ++ [' ']) := by
  obtain ⟨ls, hls, hp⟩ := h
  refine ⟨ls, ?_, hp⟩
  rw [lexemes_append (cuts_cons (by decide) (by decide) []) hls, lexemes_blank, lexemes_nil]
  simp

theorem Splits.word {name : List Char} (hn : isWord name = true)
    (hend : ∀ c ∈ cs.head?, isWordPart c = false) (h : Splits P cs)
    (hQ : ∀ ls, P ls → Q (.ident (String.ofList name) :: ls)) : Splits Q (name ++ cs) := by
  obtain ⟨ls, hls, hp⟩ := h
  exact ⟨_, by rw [lexemes_isWord hn hend, hls, Option.map_some], hQ ls hp⟩

/-! ### Lists of texts -/

def MakesItems (ls : List Lexeme) : Prop :=
  ∃ terms, Derives anyGrouping ls (.items terms)

def MakesEntry (ls : List Lexeme) : Prop :=
  ∃ l key ls', ls = l :: .colon :: ls' ∧ l.key? = some key ∧ MakesRule ls'

def MakesEntries (ls : List Lexeme) : Prop :=
  ∃ entries, Derives anyGrouping ls (.entries entries)

def IsComma (separator : String) : Prop :=
  ∃ blanks, separator.toList = ',' :: blanks ∧ ∀ c ∈ blanks, isSpace c = true

theorem isComma : IsComma "," := ⟨[], rfl, nofun⟩

theorem isComma_blank : IsComma ", " :=
  ⟨[' '], rfl, List.forall_mem_singleton.mpr (by decide)⟩

theorem splits_intercalate {separator : String} (hs : IsComma separator)
    (hone : ∀ ls, P ls → Q ls) (hmore : ∀ ls ls', P ls → Q ls' → Q (ls ++ .comma :: ls'))
    {texts : List String} (hne : texts ≠ []) (h : ∀ text ∈ texts, Splits P text.toList) :
    Splits Q (String.intercalate separator texts).toList := by
  obtain ⟨blanks, hcomma, hblanks⟩ := hs
  induction texts with
  | nil => exact absurd rfl hne
  | cons text texts ih =>
    have htext := h text List.mem_cons_self
    cases texts with
    | nil =>
      obtain ⟨ls, hls, hp⟩ := htext
      rw [String.intercalate_singleton]
      exact ⟨ls, hls, hone ls hp⟩
    | cons next texts =>
      have hrest := ih (List.cons_ne_nil _ _) fun t ht => h t (List.mem_cons_of_mem _ ht)
      rw [String.intercalate_cons_cons, String.toList_append, String.toList_append, hcomma,
        List.append_assoc, List.cons_append]
      have hbehind : Splits (fun ls => ∃ ls', ls = .comma :: ls' ∧ Q ls')
          (',' :: (blanks ++ (String.intercalate separator (next :: texts)).toList)) :=
        (hrest.blanks hblanks).mark rfl (by decide) fun ls hq => ⟨ls, rfl, hq⟩
      refine htext.append (cuts_cons (by decide) (by decide) _) hbehind ?_
      rintro ls _ hp ⟨ls', rfl, hq⟩
      exact hmore ls ls' hp hq

theorem splits_items {separator : String} (hs : IsComma separator) {texts : List String}
    (hne : texts ≠ []) (h : ∀ text ∈ texts, Splits MakesRule text.toList) :
    Splits MakesItems (String.intercalate separator texts).toList := by
  refine splits_intercalate hs ?_ ?_ hne h
  · intro ls hp
    obtain ⟨t, hp⟩ := hp.derives
    exact ⟨_, .item hp⟩
  · rintro ls ls' hp ⟨terms, hq⟩
    obtain ⟨t, hp⟩ := hp.derives
    exact ⟨_, .items hp hq⟩

theorem splits_entries {separator : String} (hs : IsComma separator) {texts : List String}
    (hne : texts ≠ []) (h : ∀ text ∈ texts, Splits MakesEntry text.toList) :
    Splits MakesEntries (String.intercalate separator texts).toList := by
  refine splits_intercalate hs ?_ ?_ hne h
  · rintro _ ⟨l, key, ls, rfl, hl, hr⟩
    obtain ⟨t, hr⟩ := hr.derives
    exact ⟨_, .entry hl hr⟩
  · rintro _ ls' ⟨l, key, ls, rfl, hl, hr⟩ ⟨entries, he⟩
    obtain ⟨t, hr⟩ := hr.derives
    exact ⟨_, .entries hl hr he⟩

/-! ### Rules made of texts -/

theorem splits_entry {name : String} (hn : isWord name.toList = true) {rule : String}
    (h : Splits MakesRule rule.toList) : Splits MakesEntry (name ++ ": " ++ rule).toList := by
  have hblank : Splits MakesRule ([' '] ++ rule.toList) :=
    h.blanks (List.forall_mem_singleton.mpr (by decide))
  have hcolon : Splits (fun ls => ∃ ls', ls = .colon :: ls' ∧ MakesRule ls')
      (':' :: ([' '] ++ rule.toList)) :=
    hblank.mark rfl (by decide) fun ls hr => ⟨ls, rfl, hr⟩
  have htext : (name ++ ": " ++ rule).toList = name.toList ++ ':' :: ([' '] ++ rule.toList) := by
    simp [String.toList_append]
  rw [htext]
  refine hcolon.word hn (by simp; decide) ?_
  rintro _ ⟨ls, rfl, hr⟩
  exact ⟨_, name, ls, rfl, by simp [Lexeme.key?], hr⟩

theorem splits_object (h : Splits MakesEntries cs) : Splits MakesRule ('{' :: cs ++ ['}']) := by
  have hclose : Splits (· = [.rightBrace]) ['}'] := ⟨_, by with_unfolding_all rfl, rfl⟩
  have hbody : Splits (fun ls => ∃ ls', ls = ls' ++ [.rightBrace] ∧ MakesEntries ls')
      (cs ++ ['}']) := by
    refine h.append (cuts_cons (by decide) (by decide) []) hclose ?_
    rintro ls _ he rfl
    exact ⟨ls, rfl, he⟩
  refine hbody.mark rfl (by decide) ?_
  rintro _ ⟨ls, rfl, entries, he⟩
  exact (MakesFields.object ⟨entries, .fields he⟩).operand.rule

theorem splits_call {function : String} (hf : IsCallable function) (h : Splits MakesItems cs) :
    Splits MakesRule (function.toList ++ '(' :: cs ++ [')']) := by
  have hclose : Splits (· = [.rightParen]) [')'] := ⟨_, by with_unfolding_all rfl, rfl⟩
  have hbody : Splits (fun ls => ∃ ls', ls = ls' ++ [.rightParen] ∧ MakesItems ls')
      (cs ++ [')']) := by
    refine h.append (cuts_cons (by decide) (by decide) []) hclose ?_
    rintro ls _ hi rfl
    exact ⟨ls, rfl, hi⟩
  have hopen : Splits (fun ls => ∃ ls', ls = .leftParen :: ls' ++ [.rightParen] ∧ MakesItems ls')
      ('(' :: (cs ++ [')'])) := by
    refine hbody.mark rfl (by decide) ?_
    rintro _ ⟨ls, rfl, hi⟩
    exact ⟨ls, rfl, hi⟩
  rw [List.append_assoc, List.cons_append]
  refine hopen.word hf.1 (by simp; decide) ?_
  rintro _ ⟨ls, rfl, terms, hi⟩
  rw [String.ofList_toList]
  exact (MakesArgs.call hf.2 ⟨terms, .args hi⟩).operand.rule

/-! ### Accepted texts -/

/-- **Rules that pass make a call that passes**, written with commas between them behind a function
that can be called. -/
theorem check_call {function separator : String} (hf : IsCallable function)
    (hs : IsComma separator) {rules : List String} (hne : rules ≠ [])
    (h : ∀ rule ∈ rules, check rule = .ok ()) :
    check (function ++ "(" ++ String.intercalate separator rules ++ ")") = .ok () := by
  have hitems := splits_items hs hne fun rule hr => (check_eq_ok_iff_splits rule).mp (h rule hr)
  rw [check_eq_ok_iff_splits]
  simpa [String.toList_append] using splits_call hf hitems

/-- **Rules that pass make an object that passes**, each written behind a word and a colon.  There
may be a blank on the inside of the braces. -/
theorem check_object {separator margin : String} (hs : IsComma separator)
    (hm : margin = "" ∨ margin = " ") {entries : List (String × String)} (hne : entries ≠ [])
    (hn : ∀ entry ∈ entries, isWord entry.1.toList = true)
    (h : ∀ entry ∈ entries, check entry.2 = .ok ()) :
    check ("\x7b" ++ margin ++ String.intercalate separator
      (entries.map fun entry => entry.1 ++ ": " ++ entry.2) ++ margin ++ "\x7d") = .ok () := by
  have hentries : Splits MakesEntries (String.intercalate separator
      (entries.map fun entry => entry.1 ++ ": " ++ entry.2)).toList := by
    refine splits_entries hs (by simpa using hne) ?_
    intro text ht
    obtain ⟨entry, he, rfl⟩ := List.mem_map.mp ht
    exact splits_entry (hn entry he) ((check_eq_ok_iff_splits entry.2).mp (h entry he))
  have hblank : ∀ c ∈ margin.toList, isSpace c = true := by
    rcases hm with rfl | rfl
    · simp
    · exact List.forall_mem_singleton.mpr (by decide)
  have hinside := hentries.blanks hblank
  have hbody : Splits MakesEntries ((margin.toList ++ (String.intercalate separator
      (entries.map fun entry => entry.1 ++ ": " ++ entry.2)).toList) ++ margin.toList) := by
    rcases hm with rfl | rfl
    · simpa using hinside
    · exact hinside.blank_end
  rw [check_eq_ok_iff_splits]
  simpa [String.toList_append] using splits_object hbody

/-! ### Objects that break off -/

/-- Where an entry of an object may begin, the check does not get through the characters. -/
def Stuck (cs : List Char) : Prop :=
  ∀ ls, lexemes cs = some ls → ∀ phase, OpensEntry phase → ∀ outer next,
    Checking.steps ⟨phase, .object :: outer⟩ (ls.map Lexeme.kind) ≠ .ok next

theorem Splits.steps_entry_comma (h : Splits MakesEntry cs) :
    ∃ ls, lexemes cs = some ls ∧ ∀ phase, OpensEntry phase → ∀ outer kinds,
      Checking.steps ⟨phase, .object :: outer⟩ (ls.map Lexeme.kind ++ .comma :: kinds) =
        Checking.steps ⟨.key, .object :: outer⟩ kinds := by
  obtain ⟨_, hls, l, key, ls, rfl, hl, hr⟩ := h
  obtain ⟨t, hr⟩ := hr.derives
  refine ⟨_, hls, fun phase hp outer kinds => ?_⟩
  obtain ⟨next, hs, hready⟩ := steps_entry hl hp hr.accepted (.object :: outer)
  have hread : Checking.steps ⟨phase, .object :: outer⟩ ((l :: .colon :: ls).map Lexeme.kind) =
      .ok next := hs
  have hcomma : next.step .comma = .ok ⟨.key, .object :: outer⟩ := hready.step (by simp)
  rw [Checking.steps_append_of_ok hread, Checking.steps_cons_of_ok hcomma]

theorem lexemes_comma_append {ls : List Lexeme} (h : lexemes cs = some ls) (rest : List Char) :
    lexemes (cs ++ ',' :: rest) = (lexemes rest).map (ls ++ .comma :: ·) := by
  rw [lexemes_append (cuts_cons (by decide) (by decide) rest) h, lexemes_mark rfl (by decide),
    Option.map_map]
  rfl

theorem Stuck.blank (h : Stuck cs) : Stuck (' ' :: cs) := by
  intro ls hls
  rw [lexemes_blank] at hls
  exact h ls hls

/-- Behind a good entry the check is where it was. -/
theorem Stuck.entry (h : Splits MakesEntry cs) (h' : Stuck cs') :
    Stuck (cs ++ ',' :: ' ' :: cs') := by
  obtain ⟨ls, hls, hsteps⟩ := h.steps_entry_comma
  intro _ hwhole phase hp outer next hs
  rw [lexemes_comma_append hls, lexemes_blank] at hwhole
  obtain ⟨ls', hls', rfl⟩ := Option.map_eq_some_iff.mp hwhole
  rw [List.map_append, List.map_cons, Lexeme.kind, hsteps phase hp] at hs
  exact h' ls' hls' .key .key outer next hs

/-- A word behind a good entry is taken for a key, and a key has a colon behind it. -/
theorem stuck_word (h : Splits MakesEntry cs) {name : List Char} (hn : isWord name = true)
    (hend : ∀ c ∈ rest.head?, isWordPart c = false)
    (hrest : ∀ ls, lexemes rest = some ls → ∃ l ls', ls = l :: ls' ∧ l ≠ .colon) :
    Stuck (cs ++ ',' :: (name ++ rest)) := by
  obtain ⟨ls, hls, hsteps⟩ := h.steps_entry_comma
  intro _ hwhole phase hp outer next hs
  rw [lexemes_comma_append hls, lexemes_isWord hn hend, Option.map_map] at hwhole
  obtain ⟨_, hls', rfl⟩ := Option.map_eq_some_iff.mp hwhole
  obtain ⟨l, ls', rfl, hl⟩ := hrest _ hls'
  rw [Function.comp_apply, List.map_append, List.map_cons, Lexeme.kind, hsteps phase hp] at hs
  obtain ⟨between, hkey, hs⟩ := Checking.exists_step_of_steps hs
  cases hkey
  obtain ⟨after, hcolon, -⟩ := Checking.exists_step_of_steps hs
  cases l <;> first | exact absurd rfl hl | cases hcolon

theorem Stuck.check_ne (h : Stuck cs) {rule : String} (hr : rule.toList = '{' :: cs) :
    check rule ≠ .ok () := by
  intro hcheck
  obtain ⟨_, next, hwhole, hs⟩ := steps_of_check hcheck
  rw [hr, lexemes_mark rfl (by decide)] at hwhole
  obtain ⟨ls, hls, rfl⟩ := Option.map_eq_some_iff.mp hwhole
  obtain ⟨between, hopen, hs⟩ := Checking.exists_step_of_steps hs
  cases hopen
  exact h ls hls .firstKey .firstKey [] next hs

end AdaptiveForm.Rule
