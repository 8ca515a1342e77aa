import AdaptiveForm.Proofs.Rule.Grammar
import AdaptiveForm.Proofs.Rule.Literal
import AdaptiveForm.Proofs.Text.Split
import Mathlib.Data.List.TakeWhile

/-!
# The pieces of a rule

A rule is put together from pieces.  `Spelled cs ls` says that the characters `cs` are the tokens
`ls` in front of everything that cannot lengthen the last of them, as a blank, a comma and a closing
bracket cannot.  Numbers, words, texts and paths are such pieces, and so is what is made of them
with brackets, commas and operators.
-/

namespace AdaptiveForm.Rule

open AdaptiveForm.Text
open AdaptiveForm.Formula (BinaryOp)

/-! ### Spelled pieces -/

/-- No number and no name at the end of what stands before goes on with these characters. -/
def Ends (rest : List Char) : Prop :=
  ∀ c ∈ rest.head?, isWordPart c = false ∧ isNumberPart c = false

theorem ends_nil : Ends [] := by
  simp [Ends]

theorem ends_cons {c : Char} (h : isWordPart c = false ∧ isNumberPart c = false)
    (rest : List Char) : Ends (c :: rest) := by
  simpa [Ends] using h

/-- The characters are these tokens, whatever comes behind that does not go on with them. -/
def Spelled (cs : List Char) (ls : List Lexeme) : Prop :=
  ∀ rest, Ends rest → lexemes (cs ++ rest) = (lexemes rest).map (ls ++ ·)

theorem Spelled.lexemes {cs : List Char} {ls : List Lexeme} (h : Spelled cs ls) :
    Rule.lexemes cs = some ls := by
  have := h [] ends_nil
  rw [List.append_nil, lexemes_nil] at this
  simpa using this

theorem spelled_nil : Spelled [] [] := by
  intro rest _
  simp

def BeginsMark (c : Char) : Prop :=
  isSpace c = false ∧ isQuote c = false ∧ c.isDigit = false ∧ isWordStart c = false

instance (c : Char) : Decidable (BeginsMark c) := by
  unfold BeginsMark
  infer_instance

theorem beginsMark_of_mark? {c : Char} {kind : Kind} (h : mark? c = some kind) :
    BeginsMark c := by
  unfold mark? at h
  split at h <;> first | decide | cases h

/-- A mark is its token where it does not begin a longer operator. -/
theorem headToken_mark_of_head {c : Char} {kind : Kind} (hm : mark? c = some kind)
    {rest : List Char} (hd : rest.head?.any (isDoubleOperator c) = false) :
    headToken c rest = .ok (kind, 0) := by
  obtain ⟨-, hquote, hdigit, hword⟩ := beginsMark_of_mark? hm
  simp only [headToken, hquote, hdigit, hword, hd, hm, Bool.false_eq_true, if_false]

theorem lexemes_mark_of_head {c : Char} {kind : Kind} (hm : mark? c = some kind)
    {rest : List Char} (hd : rest.head?.any (isDoubleOperator c) = false) :
    lexemes (c :: rest) = (lexemes rest).map (Lexeme.of [c] kind :: ·) :=
  lexemes_token (beginsMark_of_mark? hm).1 [] kind (List.nil_append rest).symm
    (headToken_mark_of_head hm hd)

theorem headToken_mark {c : Char} {kind : Kind} (hm : mark? c = some kind)
    (hc : c ∉ ['&', '!', '<', '>']) (rest : List Char) : headToken c rest = .ok (kind, 0) := by
  refine headToken_mark_of_head hm ?_
  have hne : c ≠ '=' ∧ c ≠ '|' := by
    constructor <;> rintro rfl <;> cases hm
  simp only [List.mem_cons, List.not_mem_nil, or_false, not_or] at hc
  cases rest with
  | nil => rfl
  | cons d rest => simp [isDoubleOperator, hc, hne]

theorem lexemes_mark {c : Char} {kind : Kind} (hm : mark? c = some kind)
    (hc : c ∉ ['&', '!', '<', '>']) (rest : List Char) :
    lexemes (c :: rest) = (lexemes rest).map (Lexeme.of [c] kind :: ·) :=
  lexemes_token (beginsMark_of_mark? hm).1 [] kind (List.nil_append rest).symm
    (headToken_mark hm hc rest)

theorem lexemes_double {c next : Char} (hb : BeginsMark c) (hd : isDoubleOperator c next = true)
    (rest : List Char) :
    lexemes (c :: next :: rest) =
      (lexemes rest).map (.operator (String.ofList [c, next]) :: ·) := by
  obtain ⟨hspace, hquote, hdigit, hword⟩ := hb
  refine lexemes_token hspace [next] .operator rfl ?_
  simp only [headToken, hquote, hdigit, hword, List.head?_cons, Option.any_some, hd,
    Bool.false_eq_true, if_false, if_true, List.length_singleton]

theorem headToken_digit {c : Char} (hc : c.isDigit = true) (cs : List Char) :
    headToken c cs = .ok (.number, (cs.takeWhile isNumberPart).length) := by
  have hquote : isQuote c = false := by
    cases hq : isQuote c with
    | false => rfl
    | true =>
      simp only [isQuote, Bool.or_eq_true, beq_iff_eq] at hq
      rcases hq with (rfl | rfl) | rfl <;> revert hc <;> decide
  rw [headToken, if_neg (by simp [hquote]), if_pos hc]

theorem lexemes_number {c : Char} {cs rest : List Char} (hc : c.isDigit = true)
    (hcs : ∀ d ∈ cs, isNumberPart d = true) (hrest : ∀ d ∈ rest.head?, isNumberPart d = false) :
    lexemes (c :: cs ++ rest) = (lexemes rest).map (.number (String.ofList (c :: cs)) :: ·) := by
  rw [List.cons_append, lexemes_token (isSpace_of_isDigit hc) cs .number rfl]
  · rfl
  · rw [headToken_digit hc, takeWhile_append_ends hcs hrest]

theorem spelled_number {c : Char} {cs : List Char} (hc : c.isDigit = true)
    (hcs : ∀ d ∈ cs, isNumberPart d = true) :
    Spelled (c :: cs) [.number (String.ofList (c :: cs))] :=
  fun _ hrest => lexemes_number hc hcs fun d hd => (hrest d hd).2

theorem isNumberPart_of_isDigit {c : Char} (h : c.isDigit = true) : isNumberPart c = true := by
  simp [isNumberPart, h]

def isNumeral (digits : String) : Bool :=
  match digits.toList.dropWhile Char.isDigit with
  | [] => !digits.toList.isEmpty
  | c :: fraction =>
    !(digits.toList.takeWhile Char.isDigit).isEmpty && c == '.' && fraction.all Char.isDigit

theorem isNumeral_toList {digits : String} (h : isNumeral digits = true) :
    ∃ c cs, digits.toList = c :: cs ∧ c.isDigit = true ∧ ∀ d ∈ cs, isNumberPart d = true := by
  have hparts := List.takeWhile_append_dropWhile (p := Char.isDigit) (l := digits.toList)
  have hwhole : ∀ d ∈ digits.toList.takeWhile Char.isDigit, d.isDigit = true := fun d hd =>
    List.mem_takeWhile_imp hd
  revert h hparts hwhole
  rw [isNumeral]
  generalize digits.toList.takeWhile Char.isDigit = whole
  cases digits.toList.dropWhile Char.isDigit with
  | nil =>
    intro h hparts hwhole
    rw [List.append_nil] at hparts
    rw [← hparts] at h ⊢
    cases whole with
    | nil => cases h
    | cons c cs =>
      exact ⟨c, cs, rfl, hwhole c List.mem_cons_self,
        fun d hd => isNumberPart_of_isDigit (hwhole d (List.mem_cons_of_mem _ hd))⟩
  | cons point fraction =>
    intro h hparts hwhole
    simp only [Bool.and_eq_true, beq_iff_eq, List.all_eq_true] at h
    obtain ⟨⟨hne, rfl⟩, hfraction⟩ := h
    cases whole with
    | nil => cases hne
    | cons c cs =>
      refine ⟨c, cs ++ '.' :: fraction, hparts.symm, hwhole c List.mem_cons_self, ?_⟩
      intro d hd
      simp only [List.mem_append, List.mem_cons] at hd
      rcases hd with hd | rfl | hd
      · exact isNumberPart_of_isDigit (hwhole d (List.mem_cons_of_mem _ hd))
      · rfl
      · exact isNumberPart_of_isDigit (hfraction d hd)

theorem spelled_numeral {digits : String} (h : isNumeral digits = true) :
    Spelled digits.toList [.number digits] := by
  obtain ⟨c, cs, hcs, hc, hpart⟩ := isNumeral_toList h
  have hs := spelled_number hc hpart
  rw [← hcs, String.ofList_toList] at hs
  exact hs

def isWord : List Char → Bool
  | [] => false
  | c :: cs => (isAlphabetic c || c == '_') && cs.all fun d => isAlphanumeric d || d == '_'

theorem lexemes_word {c : Char} {cs rest : List Char} (hspace : isSpace c = false)
    (hquote : isQuote c = false) (hdigit : c.isDigit = false) (hstart : isWordStart c = true)
    (hcs : ∀ d ∈ cs, isWordPart d = true) (hrest : ∀ d ∈ rest.head?, isWordPart d = false) :
    lexemes (c :: cs ++ rest) = (lexemes rest).map
      ((if c = '$' then .context (String.ofList (c :: cs)) else .ident (String.ofList (c :: cs))) ::
        ·) := by
  have htake := takeWhile_append_ends hcs hrest
  rw [List.cons_append, lexemes_token hspace cs (if c = '$' then
    .context (String.ofList (c :: cs)) else .ident (String.ofList (c :: cs))) rfl]
  · split_ifs <;> simp [Lexeme.of]
  · rw [headToken, if_neg (by simp [hquote]), if_neg (by simp [hdigit]), if_pos hstart, htake]

theorem lexemes_isWord {cs : List Char} (h : isWord cs = true) {rest : List Char}
    (hrest : ∀ d ∈ rest.head?, isWordPart d = false) :
    lexemes (cs ++ rest) = (lexemes rest).map (.ident (String.ofList cs) :: ·) := by
  obtain _ | ⟨c, cs⟩ := cs
  · cases h
  simp only [isWord, Bool.and_eq_true, Bool.or_eq_true, beq_iff_eq, List.all_eq_true] at h
  obtain ⟨hc, hcs⟩ := h
  have hcs : ∀ d ∈ cs, isWordPart d = true := fun d hd => by simpa [isWordPart] using hcs d hd
  obtain ⟨hspace, hquote, hdigit, hne⟩ := letter_class hc
  have hstart : isWordStart c = true := by
    rcases hc with hc | rfl
    · simp [isWordStart, hc]
    · rfl
  rw [lexemes_word hspace hquote hdigit hstart hcs hrest, if_neg hne]

theorem spelled_word {cs : List Char} (h : isWord cs = true) :
    Spelled cs [.ident (String.ofList cs)] :=
  fun _ hrest => lexemes_isWord h fun d hd => (hrest d hd).1

/-! ### Texts -/

/-- A text without a backslash is a token of its own, with the content it was made of. -/
theorem spelled_quoteText {content : String} (h : ∀ c ∈ content.toList, c ≠ '\\') :
    Spelled (quoteText content).toList [.text content] := by
  have hno : '\\' ∉ content.toList := fun hmem => h _ hmem rfl
  have hpaired := paired_of_notMem hno
  have hcontent : unquoted (quoteText content).toList = content := by
    rw [unquoted_quoteText, hpaired.unescape_escapeQuotes, hpaired.unescape_eq_iff.mpr hno,
      String.ofList_toList]
  rw [toList_quoteText] at hcontent ⊢
  intro rest _
  rw [List.cons_append,
    lexemes_token (by decide) (escapeQuotes content.toList ++ ['\'']) .text rfl]
  · rw [Lexeme.of, hcontent]
    rfl
  · rw [headToken, if_pos (by decide), List.append_assoc, List.singleton_append,
      hpaired.quotedWidth_eq]
    simp [quotedKind]

/-! ### Paths -/

/-- A path: a context, and words behind it with a dot before each. -/
def isPath (path : String) : Bool :=
  match splitChars '.' path.toList with
  | root :: name :: names =>
    (root == "$form".toList || root == "$properties".toList) && (name :: names).all isWord
  | _ => false

def memberLexemes (names : List (List Char)) : List Lexeme :=
  names.flatMap fun name => [.dot, .ident (String.ofList name)]

theorem spelled_members : ∀ {names : List (List Char)}, (∀ name ∈ names, isWord name = true) →
    Spelled (names.flatMap ('.' :: ·)) (memberLexemes names) := by
  intro names
  induction names with
  | nil => intro _; exact spelled_nil
  | cons name names ih =>
    intro h rest hrest
    have hnames := ih (fun n hn => h n (List.mem_cons_of_mem _ hn)) rest hrest
    have hend : ∀ d ∈ (names.flatMap ('.' :: ·) ++ rest).head?, isWordPart d = false := by
      cases names with
      | nil => exact fun d hd => (hrest d hd).1
      | cons => simp; decide
    rw [List.flatMap_cons, List.append_assoc, List.cons_append,
      lexemes_mark (c := '.') rfl (by decide),
      lexemes_isWord (h name List.mem_cons_self) hend, hnames]
    simp [Function.comp_def, memberLexemes, Lexeme.of]

/-- The name of a context is a token of its own, and goes on with a letter or a digit only. -/
theorem lexemes_context {name : List Char} (hname : ∀ d ∈ name, isWordPart d = true)
    {rest : List Char} (hrest : ∀ d ∈ rest.head?, isWordPart d = false) :
    lexemes ('$' :: name ++ rest) =
      (lexemes rest).map (.context (String.ofList ('$' :: name)) :: ·) := by
  rw [lexemes_word (by decide) (by decide) (by decide) (by decide) hname hrest, if_pos rfl]

theorem head?_members (names : List (List Char)) :
    ∀ d ∈ (names.flatMap ('.' :: ·)).head?, isWordPart d = false := by
  cases names with
  | nil => simp
  | cons name names =>
    simp
    decide

structure IsPathOf (path root : String) (names : List (List Char)) : Prop where
  context : ∃ name, root.toList = '$' :: name ∧ ∀ d ∈ name, isWordPart d = true
  text : path.toList = root.toList ++ names.flatMap ('.' :: ·)

theorem IsPathOf.lexemes {path root : String} {names : List (List Char)}
    (h : IsPathOf path root names) (rest : List Char)
    (hrest : ∀ d ∈ (names.flatMap ('.' :: ·) ++ rest).head?, isWordPart d = false) :
    Rule.lexemes (path.toList ++ rest) =
      (Rule.lexemes (names.flatMap ('.' :: ·) ++ rest)).map (.context root :: ·) := by
  obtain ⟨name, hroot, hname⟩ := h.context
  rw [h.text, List.append_assoc, hroot, lexemes_context hname hrest, ← hroot,
    String.ofList_toList]

/-- **A path whose names are words is spelled by its context and its names.** -/
theorem IsPathOf.spelled {path root : String} {names : List (List Char)}
    (h : IsPathOf path root names) (hne : names ≠ [])
    (hwords : ∀ name ∈ names, isWord name = true) :
    Spelled path.toList (.context root :: memberLexemes names) := by
  intro rest hrest
  have hend : ∀ d ∈ (names.flatMap ('.' :: ·) ++ rest).head?, isWordPart d = false := by
    cases names with
    | nil => exact absurd rfl hne
    | cons name names => exact head?_members (name :: names)
  rw [h.lexemes rest hend, spelled_members hwords rest hrest, Option.map_map]
  rfl

theorem spelled_path {path : String} (h : isPath path = true) :
    ∃ root names, splitChars '.' path.toList = root :: names ∧
      Spelled path.toList (.context (String.ofList root) :: memberLexemes names) := by
  rw [isPath] at h
  split at h
  · rename_i root name names hs
    simp only [Bool.and_eq_true, Bool.or_eq_true, beq_iff_eq, List.all_eq_true] at h
    obtain ⟨hroot, hnames⟩ := h
    have hpath : IsPathOf path (String.ofList root) (name :: names) := {
      context := by
        rw [String.toList_ofList]
        rcases hroot with rfl | rfl
        · exact ⟨"form".toList, rfl, List.all_eq_true.mp (by rfl)⟩
        · exact ⟨"properties".toList, rfl, List.all_eq_true.mp (by rfl)⟩
      text := by rw [String.toList_ofList, ← splitChars_eq_cons hs] }
    exact ⟨root, name :: names, hs, hpath.spelled (List.cons_ne_nil _ _) hnames⟩
  · cases h

/-! ### Pieces made of pieces -/

theorem lexemes_blank (rest : List Char) : lexemes (' ' :: rest) = lexemes rest :=
  lexemes_space (by decide) rest

theorem Spelled.paren {cs : List Char} {ls : List Lexeme} (h : Spelled cs ls) :
    Spelled ('(' :: cs ++ [')']) (.leftParen :: ls ++ [.rightParen]) := by
  intro rest _
  rw [List.append_assoc, List.cons_append, lexemes_mark (c := '(') rfl (by decide),
    List.singleton_append, h _ (ends_cons (c := ')') (by decide) rest),
    lexemes_mark (c := ')') rfl (by decide)]
  simp [Function.comp_def, Lexeme.of]

theorem Spelled.bracket {cs : List Char} {ls : List Lexeme} (h : Spelled cs ls) :
    Spelled ('[' :: cs ++ [']']) (.leftBracket :: ls ++ [.rightBracket]) := by
  intro rest _
  rw [List.append_assoc, List.cons_append, lexemes_mark (c := '[') rfl (by decide),
    List.singleton_append, h _ (ends_cons (c := ']') (by decide) rest),
    lexemes_mark (c := ']') rfl (by decide)]
  simp [Function.comp_def, Lexeme.of]

theorem Spelled.minus {cs : List Char} {ls : List Lexeme} (h : Spelled cs ls) :
    Spelled ('-' :: cs) (.minus :: ls) := by
  intro rest hrest
  rw [List.cons_append, lexemes_mark (c := '-') rfl (by decide), h _ hrest]
  simp [Function.comp_def, Lexeme.of]

theorem Spelled.comma {cs cs' : List Char} {ls ls' : List Lexeme} (h : Spelled cs ls)
    (h' : Spelled cs' ls') : Spelled (cs ++ ',' :: ' ' :: cs') (ls ++ .comma :: ls') := by
  intro rest hrest
  rw [List.append_assoc, List.cons_append, List.cons_append,
    h _ (ends_cons (c := ',') (by decide) _), lexemes_mark (c := ',') rfl (by decide),
    lexemes_blank, h' _ hrest]
  simp [Function.comp_def, Lexeme.of]

theorem Spelled.call {name cs : List Char} {ls : List Lexeme} (hn : isWord name = true)
    (h : Spelled cs ls) : Spelled (name ++ '(' :: cs ++ [')'])
      (.ident (String.ofList name) :: .leftParen :: ls ++ [.rightParen]) := by
  intro rest hrest
  have hp := h.paren rest hrest
  simp only [List.cons_append, List.append_assoc] at hp ⊢
  rw [spelled_word hn _ (ends_cons (c := '(') (by decide) _), hp]
  simp [Function.comp_def]

theorem lexemes_symbol {op : BinaryOp} {symbol : String} (h : symbol? op = some symbol) :
    ∃ l : Lexeme, l.symbol? = some symbol ∧ ∀ rest,
      lexemes (symbol.toList ++ ' ' :: rest) = (lexemes rest).map (l :: ·) := by
  have hmark : ∀ (c : Char) (kind : Kind), mark? c = some kind → isDoubleOperator c ' ' = false →
      ∀ rest, lexemes ([c] ++ ' ' :: rest) = (lexemes rest).map (Lexeme.of [c] kind :: ·) := by
    intro c kind hm hd rest
    rw [List.singleton_append, lexemes_mark_of_head hm (by simpa using hd), lexemes_blank]
  have hdouble : ∀ (c next : Char), BeginsMark c → isDoubleOperator c next = true →
      ∀ rest, lexemes ([c, next] ++ ' ' :: rest) =
        (lexemes rest).map (.operator (String.ofList [c, next]) :: ·) := by
    intro c next hb hd rest
    rw [List.cons_append, List.singleton_append, lexemes_double hb hd, lexemes_blank]
  cases op <;> cases h
  case sub => exact ⟨.minus, rfl, hmark '-' .minus rfl rfl⟩
  case add => exact ⟨.operator "+", rfl, hmark '+' .operator rfl rfl⟩
  case mul => exact ⟨.operator "*", rfl, hmark '*' .operator rfl rfl⟩
  case div => exact ⟨.operator "/", rfl, hmark '/' .operator rfl rfl⟩
  case concat => exact ⟨.operator "&", rfl, hmark '&' .operator rfl rfl⟩
  case eq => exact ⟨.operator "==", rfl, hdouble '=' '=' (by decide) rfl⟩
  case ne => exact ⟨.operator "!=", rfl, hdouble '!' '=' (by decide) rfl⟩
  case lt => exact ⟨.operator "<", rfl, hmark '<' .operator rfl rfl⟩
  case le => exact ⟨.operator "<=", rfl, hdouble '<' '=' (by decide) rfl⟩
  case gt => exact ⟨.operator ">", rfl, hmark '>' .operator rfl rfl⟩
  case ge => exact ⟨.operator ">=", rfl, hdouble '>' '=' (by decide) rfl⟩

theorem Spelled.symbol {cs cs' : List Char} {ls ls' : List Lexeme} {op : BinaryOp}
    {symbol : String} (hop : symbol? op = some symbol) (h : Spelled cs ls)
    (h' : Spelled cs' ls') : ∃ l : Lexeme, l.symbol? = some symbol ∧
      Spelled (cs ++ ' ' :: symbol.toList ++ ' ' :: cs') (ls ++ l :: ls') := by
  obtain ⟨l, hl, hlex⟩ := lexemes_symbol hop
  refine ⟨l, hl, ?_⟩
  intro rest hrest
  simp only [List.append_assoc, List.cons_append]
  rw [h _ (ends_cons (c := ' ') (by decide) _), lexemes_blank, hlex, h' _ hrest]
  simp [Function.comp_def]

end AdaptiveForm.Rule
