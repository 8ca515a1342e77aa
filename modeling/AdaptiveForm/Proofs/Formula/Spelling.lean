import AdaptiveForm.Proofs.Formula.Number
import AdaptiveForm.Proofs.Formula.Parsing
import Mathlib.Data.List.TakeDrop

/-!
# How tokens are written

A token is written as its text, a text in quotes with each quote inside written twice, and a mark as
its symbol; only the comma can be written in two ways.  Scanning loses nothing of a formula but
white space: the formula is `Laid` out as the spellings of its tokens, each at its position.  And a
token is found again wherever one of its spellings stands in front of a blank, `Kind.Stands`, so
that the spellings with blanks between them have the same tokens.  Of a formula that is one text or
one number this gives what it looks like: `parse_eq_text_iff` and `parts_of_scan`.
-/

namespace AdaptiveForm.Formula

open AdaptiveForm.Text

/-! ### Spellings -/

/-- A content as it stands between quotes: each quote is written twice. -/
def doubled (quote : Char) : List Char → List Char
  | [] => []
  | c :: cs => if c = quote then quote :: quote :: doubled quote cs else c :: doubled quote cs

def Kind.spellings : Kind → List (List Char)
  | .number digits => [digits.toList]
  | .text content => ['\'' :: doubled '\'' content.toList ++ ['\'']]
  | .ident name => [name.toList]
  | .leftParen => [['(']]
  | .rightParen => [[')']]
  | .comma => [[','], [';']]
  | .colon => [[':']]
  | .plus => [['+']]
  | .minus => [['-']]
  | .star => [['*']]
  | .slash => [['/']]
  | .caret => [['^']]
  | .amp => [['&']]
  | .percent => [['%']]
  | .eq => [['=']]
  | .ne => [['<', '>']]
  | .lt => [['<']]
  | .le => [['<', '=']]
  | .gt => [['>']]
  | .ge => [['>', '=']]

/-- The characters, of which the first stands at `position`, are spellings of the tokens, each at
the position of its token, with nothing but white space before, between and after them. -/
inductive Laid : Nat → List Char → List Token → Prop
  | done {position : Nat} : Laid position [] []
  | space {position : Nat} {c : Char} {cs : List Char} {tokens : List Token}
      (hc : isSpace c = true) (h : Laid (position + 1) cs tokens) : Laid position (c :: cs) tokens
  | token {position : Nat} {kind : Kind} {c : Char} {cs rest : List Char} {tokens : List Token}
      (hs : c :: cs ∈ kind.spellings) (h : Laid (position + 1 + cs.length) rest tokens) :
      Laid position (c :: cs ++ rest) (⟨position, kind⟩ :: tokens)

/-! ### Texts -/

theorem doubled_quote (quote : Char) (cs : List Char) :
    doubled quote (quote :: cs) = quote :: quote :: doubled quote cs := by
  rw [doubled, if_pos rfl]

theorem doubled_cons {quote c : Char} (h : c ≠ quote) (cs : List Char) :
    doubled quote (c :: cs) = c :: doubled quote cs := by
  rw [doubled, if_neg h]

theorem mem_doubled {quote c : Char} {cs : List Char} : c ∈ doubled quote cs ↔ c ∈ cs := by
  induction cs with
  | nil => rfl
  | cons d cs ih =>
    by_cases hd : d = quote
    · subst hd
      simp [doubled_quote, ih]
    · simp [doubled_cons hd, ih]

theorem length_doubled (quote : Char) (cs : List Char) :
    (doubled quote cs).length = cs.length + cs.count quote := by
  induction cs with
  | nil => rfl
  | cons c cs ih =>
    by_cases hc : c = quote
    · subst hc
      simp [doubled_quote, ih]
      omega
    · simp [doubled_cons hc, ih, List.count_cons_of_ne hc]
      omega

theorem doubled_eq_self_iff {quote : Char} {cs : List Char} :
    doubled quote cs = cs ↔ quote ∉ cs := by
  constructor
  · intro h
    have := length_doubled quote cs
    rw [h] at this
    exact List.count_eq_zero.mp (by omega)
  · intro h
    induction cs with
    | nil => rfl
    | cons c cs ih =>
      rw [List.mem_cons, not_or] at h
      rw [doubled_cons (Ne.symm h.1), ih h.2]

theorem quotedText_cons {c : Char} (h : c ≠ '\'') (cs : List Char) :
    quotedText (c :: cs) =
      (quotedText cs).map fun (content, width) => (c :: content, width + 1) := by
  rw [quotedText, if_neg h]
  exact fun _ hc => absurd hc h

theorem quotedText_doubled (content : List Char) {rest : List Char}
    (hr : rest.head? ≠ some '\'') : quotedText (doubled '\'' content ++ '\'' :: rest) =
      some (content, (doubled '\'' content).length + 1) := by
  induction content with
  | nil =>
    rw [doubled, List.nil_append, quotedText, if_pos rfl]
    · rfl
    · intro cs' _ hcs
      rw [hcs] at hr
      exact hr rfl
  | cons c content ih =>
    by_cases hc : c = '\''
    · subst hc
      rw [doubled_quote, List.cons_append, List.cons_append, quotedText, ih]
      rfl
    · rw [doubled_cons hc, List.cons_append, quotedText_cons hc, ih]
      rfl

/-- **What is read as a text is its content with each quote written twice.** -/
theorem eq_of_quotedText {cs content : List Char} {width : Nat}
    (h : quotedText cs = some (content, width)) :
    ∃ rest, cs = doubled '\'' content ++ '\'' :: rest ∧
      width = (doubled '\'' content).length + 1 := by
  fun_induction quotedText cs generalizing content width with
  | case1 => cases h
  | case2 cs ih =>
    obtain ⟨⟨content, width⟩, hrest, heq⟩ := Option.map_eq_some_iff.mp h
    cases heq
    obtain ⟨rest, rfl, rfl⟩ := ih hrest
    exact ⟨rest, by rw [doubled_quote]; rfl, by rw [doubled_quote]; rfl⟩
  | case3 cs =>
    cases h
    exact ⟨cs, rfl, rfl⟩
  | case4 c cs hne hc ih =>
    obtain ⟨⟨content, width⟩, hrest, heq⟩ := Option.map_eq_some_iff.mp h
    cases heq
    obtain ⟨rest, rfl, rfl⟩ := ih hrest
    exact ⟨rest, by rw [doubled_cons hc]; rfl, by rw [doubled_cons hc]; rfl⟩

/-! ### The first token -/

structure Plain (c : Char) : Prop where
  noMark : mark? c = none
  noLess : c ≠ '<'
  noGreater : c ≠ '>'
  noQuote : c ≠ '\''

theorem Plain.headToken_eq {c : Char} (h : Plain c) (position : Nat) (cs : List Char) :
    headToken position c cs =
      if c.isDigit || (c == '.' && 0 < digitWidth cs) then
        .ok (.number (String.ofList ((c :: cs).take (numberWidth (c :: cs)))),
          numberWidth (c :: cs) - 1)
      else if isNameStart c then
        .ok (.ident (String.ofList (c :: cs.takeWhile isNamePart)),
          (cs.takeWhile isNamePart).length)
      else .error (.unexpectedCharacter position c) := by
  rw [headToken.eq_def, h.noMark]
  simp only
  split
  case h_1 => exact absurd rfl h.noLess
  case h_2 => exact absurd rfl h.noLess
  case h_3 => exact absurd rfl h.noLess
  case h_4 => exact absurd rfl h.noGreater
  case h_5 => exact absurd rfl h.noGreater
  case h_6 => exact absurd rfl h.noQuote
  case h_7 => rfl

theorem headToken_quote (position : Nat) (cs : List Char) :
    headToken position '\'' cs =
      match quotedText cs with
      | some (content, width) => .ok (.text (String.ofList content), width)
      | none => .error (.malformed position .unterminatedText) := by
  rw [headToken.eq_def]
  rfl

/-- What the first token is, by the character `c` with which it begins and what follows. -/
inductive Begins (c : Char) (cs : List Char) : Kind → Nat → Prop
  | mark {kind : Kind} (h : mark? c = some kind) : Begins c cs kind 0
  | comparison {kind : Kind} {width : Nat} (hle : width ≤ cs.length)
      (hk : kind ∈ [.ne, .le, .lt, .ge, .gt]) (h : c :: cs.take width ∈ kind.spellings) :
      Begins c cs kind width
  | text {content : List Char} {width : Nat} (hc : c = '\'')
      (h : quotedText cs = some (content, width)) :
      Begins c cs (.text (String.ofList content)) width
  | number (hc : Plain c) (h : (c.isDigit || (c == '.' && 0 < digitWidth cs)) = true) :
      Begins c cs (.number (String.ofList ((c :: cs).take (numberWidth (c :: cs)))))
        (numberWidth (c :: cs) - 1)
  | ident (hc : Plain c) (hd : c.isDigit = false) (h : isNameStart c = true) :
      Begins c cs (.ident (String.ofList (c :: cs.takeWhile isNamePart)))
        (cs.takeWhile isNamePart).length

theorem begins_of_headToken {position width : Nat} {c : Char} {cs : List Char} {kind : Kind}
    (h : headToken position c cs = .ok (kind, width)) : Begins c cs kind width := by
  cases hm : mark? c with
  | some mark =>
    rw [headToken.eq_def, hm] at h
    cases h
    exact .mark hm
  | none =>
    by_cases hplain : Plain c
    · rw [hplain.headToken_eq] at h
      split_ifs at h with hnumber hname
      · cases h
        exact .number hplain hnumber
      · cases h
        rw [Bool.not_eq_true, Bool.or_eq_false_iff] at hnumber
        exact .ident hplain hnumber.1 hname
    · rw [headToken.eq_def, hm] at h
      simp only at h
      split at h
      case h_6 =>
        split at h
        · rename_i hquoted
          cases h
          exact .text rfl hquoted
        · cases h
      case h_7 => exact absurd ⟨hm, by assumption, by assumption, by assumption⟩ hplain
      all_goals
        cases h
        exact .comparison (by simp) (by simp) (by simp [Kind.spellings])

/-- Each spelling of the token, in front of a blank or of nothing, is read as the token. -/
def Kind.Stands (kind : Kind) : Prop :=
  ∀ spelling ∈ kind.spellings, ∃ c cs, spelling = c :: cs ∧ isSpace c = false ∧
    ∀ position rest, (∀ d ∈ rest.head?, d = ' ') →
      headToken position c (cs ++ rest) = .ok (kind, cs.length)

variable {c : Char} {cs : List Char} {kind : Kind} {width : Nat}

theorem spellings_of_mark? (h : mark? c = some kind) :
    [c] ∈ kind.spellings ∧
      ∀ spelling ∈ kind.spellings, ∃ d, spelling = [d] ∧ mark? d = some kind := by
  unfold mark? at h
  split at h <;> cases h <;> simp [Kind.spellings, mark?]

theorem isSpace_of_mark? (h : mark? c = some kind) : isSpace c = false := by
  unfold mark? at h
  split at h <;> cases h <;> decide

theorem numberWidth_pos (h : (c.isDigit || (c == '.' && 0 < digitWidth cs)) = true) :
    0 < numberWidth (c :: cs) := by
  obtain ⟨whole, fraction, exponent, hparts, htake⟩ := exists_parts h
  cases hwidth : numberWidth (c :: cs) with
  | succ width => omega
  | zero =>
    rw [hwidth, List.take_zero, eq_comm, List.append_eq_nil_iff, List.append_eq_nil_iff] at htake
    obtain ⟨⟨rfl, rfl⟩, -⟩ := htake
    simpa using hparts.hasDigit

theorem take_numberWidth (h : (c.isDigit || (c == '.' && 0 < digitWidth cs)) = true) :
    (c :: cs).take (numberWidth (c :: cs)) = c :: cs.take (numberWidth (c :: cs) - 1) := by
  obtain ⟨width, hwidth⟩ := Nat.exists_eq_succ_of_ne_zero (Nat.ne_of_gt (numberWidth_pos h))
  rw [hwidth, List.take_succ_cons, Nat.succ_sub_one]

/-- **A token takes one of its spellings.** -/
theorem Begins.mem_spellings (h : Begins c cs kind width) :
    c :: cs.take width ∈ kind.spellings ∧ width ≤ cs.length := by
  cases h with
  | mark h => exact ⟨(spellings_of_mark? h).1, Nat.zero_le _⟩
  | comparison hle hk h => exact ⟨h, hle⟩
  | text hc h =>
    subst hc
    obtain ⟨rest, rfl, rfl⟩ := eq_of_quotedText h
    simp [Kind.spellings, List.take_append]
  | number hc h =>
    have hle := numberWidth_le_length (c :: cs)
    rw [List.length_cons] at hle
    rw [← take_numberWidth h, Kind.spellings, String.toList_ofList]
    exact ⟨List.mem_singleton_self _, by omega⟩
  | ident hc hd h =>
    have hprefix := List.takeWhile_prefix (l := cs) isNamePart
    rw [Kind.spellings, String.toList_ofList, ← List.prefix_iff_eq_take.mp hprefix]
    exact ⟨List.mem_singleton_self _, hprefix.length_le⟩

/-- What stands in front of a blank or of nothing ends there. -/
theorem endsNumber_of_blank {rest : List Char} (h : ∀ d ∈ rest.head?, d = ' ') :
    EndsNumber rest := by
  intro d hd
  rw [h d hd]
  decide

theorem headToken_text {content : String} {rest : List Char} (position : Nat)
    (hr : rest.head? ≠ some '\'') :
    headToken position '\'' (doubled '\'' content.toList ++ ['\''] ++ rest) =
      .ok (.text content, (doubled '\'' content.toList ++ ['\'']).length) := by
  have hquoted := quotedText_doubled content.toList hr
  rw [headToken_quote, List.append_assoc, List.singleton_append, hquoted, List.length_append,
    List.length_singleton]
  simp only [String.ofList_toList]

theorem headToken_number {whole fraction exponent taken rest : List Char} (hc : Plain c)
    (h : Parts whole fraction exponent) (htaken : c :: taken = whole ++ fraction ++ exponent)
    (hr : EndsNumber rest) (position : Nat) :
    headToken position c (taken ++ rest) =
      .ok (.number (String.ofList (c :: taken)), taken.length) := by
  have hcs : whole ++ fraction ++ exponent ++ rest = c :: (taken ++ rest) := by
    rw [← htaken, List.cons_append]
  have hhead := h.head hr hcs
  have hwidth := h.numberWidth_append hr
  rw [hcs, ← htaken, List.length_cons] at hwidth
  rw [hc.headToken_eq, if_pos hhead, hwidth, List.take_succ_cons, List.take_left]
  rfl

/-- **A token stands for itself in each of its spellings.** -/
theorem Begins.stands (h : Begins c cs kind width) (hspace : isSpace c = false) : kind.Stands := by
  intro spelling hs
  cases h with
  | mark h =>
    obtain ⟨d, rfl, hd⟩ := (spellings_of_mark? h).2 spelling hs
    refine ⟨d, [], rfl, isSpace_of_mark? hd, fun position rest _ => ?_⟩
    rw [headToken.eq_def, hd]
    rfl
  | comparison hle hk h =>
    have hblank : ∀ rest : List Char, (∀ d ∈ rest.head?, d = ' ') →
        rest = [] ∨ ∃ rest', rest = ' ' :: rest' := by
      intro rest hr
      cases rest with
      | nil => exact .inl rfl
      | cons d rest => exact .inr ⟨rest, by rw [hr d rfl]⟩
    simp only [List.mem_cons, List.not_mem_nil, or_false] at hk
    rcases hk with rfl | rfl | rfl | rfl | rfl <;> obtain rfl := List.mem_singleton.mp hs <;>
      refine ⟨_, _, rfl, by decide, fun position rest hr => ?_⟩ <;>
      obtain rfl | ⟨rest', rfl⟩ := hblank rest hr <;> rfl
  | @text content width hc h =>
    obtain rfl := List.mem_singleton.mp hs
    refine ⟨'\'', doubled '\'' (String.ofList content).toList ++ ['\''], rfl, by decide, ?_⟩
    intro position rest hr
    exact headToken_text position fun hq => absurd (hr _ hq) (by decide)
  | number hc h =>
    obtain ⟨whole, fraction, exponent, hparts, htake⟩ := exists_parts h
    obtain rfl := List.mem_singleton.mp hs
    rw [take_numberWidth h] at htake ⊢
    refine ⟨c, _, String.toList_ofList, hspace, fun position rest hr => ?_⟩
    exact headToken_number hc hparts htake (endsNumber_of_blank hr) position
  | ident hc hd h =>
    obtain rfl := List.mem_singleton.mp hs
    refine ⟨c, _, String.toList_ofList, hspace, fun position rest hr => ?_⟩
    have hdot : c ≠ '.' := by
      rintro rfl
      cases h
    have hrest : ∀ d ∈ rest.head?, isNamePart d = false := by
      intro d hd
      rw [hr d hd]
      decide
    rw [hc.headToken_eq, if_neg (by simp [hd, hdot]), if_pos h,
      takeWhile_append_ends (fun d hd => List.mem_takeWhile_imp hd) hrest]

/-! ### Whole formulas -/

theorem tokensFrom_space {position : Nat} (h : isSpace c = true) :
    tokensFrom position (c :: cs) = tokensFrom (position + 1) cs := by
  rw [tokensFrom, if_pos h]

theorem tokensFrom_token {position : Nat} {rest : List Char} (h : isSpace c = false)
    (ht : headToken position c (cs ++ rest) = .ok (kind, cs.length)) :
    tokensFrom position (c :: cs ++ rest) =
      (tokensFrom (position + 1 + cs.length) rest).map (⟨position, kind⟩ :: ·) := by
  rw [List.cons_append, tokensFrom, if_neg (by simp [h]), ht]
  simp only [List.drop_left]
  cases tokensFrom (position + 1 + cs.length) rest <;> rfl

/-- **Scanning loses nothing but white space**, and takes only what stands for itself. -/
theorem laid_of_tokensFrom {position : Nat} {tokens : List Token}
    (h : tokensFrom position cs = .ok tokens) :
    Laid position cs tokens ∧ ∀ token ∈ tokens, token.kind.Stands := by
  fun_induction tokensFrom position cs generalizing tokens with
  | case1 =>
    cases h
    exact ⟨.done, nofun⟩
  | case2 position c cs hspace ih =>
    obtain ⟨hlaid, hstands⟩ := ih h
    exact ⟨.space hspace hlaid, hstands⟩
  | case3 => cases h
  | case4 => cases h
  | case5 position c cs hspace kind width hhead later hlater ih =>
    cases h
    obtain ⟨hlaid, hstands⟩ := ih hlater
    have hbegins := begins_of_headToken hhead
    obtain ⟨hspelling, hwidth⟩ := hbegins.mem_spellings
    have htake : (cs.take width).length = width := List.length_take_of_le hwidth
    constructor
    · have hcs : c :: cs = c :: cs.take width ++ cs.drop width := by
        rw [List.cons_append, List.take_append_drop]
      rw [hcs]
      exact .token hspelling (htake.symm ▸ hlaid)
    · exact List.forall_mem_cons.mpr ⟨hbegins.stands (Bool.not_eq_true _ ▸ hspace), hstands⟩

/-- The positions of tokens go up, and end before the end of what was read. -/
theorem Laid.pairwise_positions {position : Nat} {tokens : List Token}
    (h : Laid position cs tokens) :
    (tokens.map Token.position ++ [position + cs.length]).Pairwise (· < ·) ∧
      ∀ token ∈ tokens, position ≤ token.position := by
  induction h with
  | done => simp
  | @space position c cs tokens hc h ih =>
    have hend : position + (c :: cs).length = position + 1 + cs.length := by
      rw [List.length_cons]
      omega
    rw [hend]
    exact ⟨ih.1, fun token ht => Nat.le_of_succ_le (ih.2 token ht)⟩
  | @token position kind c cs rest tokens hs h ih =>
    have hend : position + (c :: cs ++ rest).length = position + 1 + cs.length + rest.length := by
      rw [List.length_append, List.length_cons]
      omega
    rw [hend, List.map_cons, List.cons_append, List.pairwise_cons]
    refine ⟨⟨?_, ih.1⟩, ?_⟩
    · intro n hn
      rcases List.mem_append.mp hn with hn | hn
      · obtain ⟨token, ht, rfl⟩ := List.mem_map.mp hn
        have := ih.2 token ht
        show position < token.position
        omega
      · obtain rfl := List.mem_singleton.mp hn
        show position < position + 1 + cs.length + rest.length
        omega
    · intro token ht
      rcases List.mem_cons.mp ht with rfl | ht
      · exact Nat.le_refl _
      · have := ih.2 token ht
        omega

theorem tokensFrom_spaces {before : List Char} (h : ∀ c ∈ before, isSpace c = true)
    (position : Nat) (rest : List Char) :
    tokensFrom position (before ++ rest) = tokensFrom (position + before.length) rest := by
  induction before generalizing position with
  | nil => rfl
  | cons c before ih =>
    rw [List.forall_mem_cons] at h
    rw [List.cons_append, tokensFrom_space h.1, ih h.2, List.length_cons]
    congr 1
    omega

theorem Laid.spaces {position : Nat} {tokens : List Token} (h : Laid position cs tokens)
    (hnil : tokens = []) : ∀ c ∈ cs, isSpace c = true := by
  induction h with
  | done => nofun
  | space hc h ih => exact List.forall_mem_cons.mpr ⟨hc, ih hnil⟩
  | token => cases hnil

theorem Laid.single {position : Nat} {tokens : List Token} (h : Laid position cs tokens)
    (hkind : tokens.map Token.kind = [kind]) :
    ∃ before spelling after, cs = before ++ spelling ++ after ∧ spelling ∈ kind.spellings ∧
      (∀ c ∈ before, isSpace c = true) ∧ ∀ c ∈ after, isSpace c = true := by
  induction h with
  | done => cases hkind
  | @space position c cs tokens hc h ih =>
    obtain ⟨before, spelling, after, rfl, hs, hbefore, hafter⟩ := ih hkind
    exact ⟨c :: before, spelling, after, rfl, hs, List.forall_mem_cons.mpr ⟨hc, hbefore⟩, hafter⟩
  | @token position kind' c cs rest tokens hs h ih =>
    obtain ⟨rfl, htokens⟩ := List.cons.inj hkind
    exact ⟨[], c :: cs, rest, rfl, hs, nofun, h.spaces (List.map_eq_nil_iff.mp htokens)⟩

/-- **Spellings with blanks between them have the tokens that they spell.** -/
theorem exists_tokensFrom_intercalate {kinds : List Kind} {spellings : List (List Char)}
    (h : List.Forall₂ (fun kind spelling => kind.Stands ∧ spelling ∈ kind.spellings)
      kinds spellings) (position : Nat) :
    ∃ tokens, tokensFrom position ([' '].intercalate spellings) = .ok tokens ∧
      tokens.map Token.kind = kinds := by
  induction h generalizing position with
  | nil => exact ⟨[], by rw [List.intercalate_nil, tokensFrom], rfl⟩
  | @cons kind spelling kinds spellings hkind htail ih =>
    obtain ⟨c, cs, rfl, hspace, hhead⟩ := hkind.1 spelling hkind.2
    cases htail with
    | nil =>
      have ht := tokensFrom_token hspace (hhead position [] (by simp))
      rw [List.append_nil, tokensFrom] at ht
      rw [List.intercalate_singleton]
      exact ⟨_, ht, rfl⟩
    | cons hnext htail =>
      obtain ⟨tokens, hts, hkinds⟩ := ih (position + 1 + cs.length + 1)
      rw [List.intercalate_cons_cons, List.append_assoc, List.singleton_append,
        tokensFrom_token hspace (hhead position _ (by simp)), tokensFrom_space (by decide), hts]
      exact ⟨_, rfl, by rw [List.map_cons, hkinds]⟩

theorem scan_eq_ok_iff {formula : String} {scanned : Scan} :
    scan formula = .ok scanned ↔
      tokensFrom 0 formula.toList = .ok scanned.tokens ∧ scanned.size = formula.length := by
  rw [scan]
  cases tokensFrom 0 formula.toList with
  | error e => simp [Except.map]
  | ok tokens =>
    obtain ⟨found, size⟩ := scanned
    simp only [Except.map, Except.ok.injEq, Scan.mk.injEq]
    rw [eq_comm (b := size)]

theorem parse_of_primary {formula : String} {scanned : Scan} (h : scan formula = .ok scanned)
    {e : Expr} (hd : Derives .primary scanned.kinds e) : Expr.parse formula = .ok e :=
  (parse_eq_ok_iff h e).mpr (hd.of_rank_le (by decide))

theorem parse_eq_text_iff {formula content : String} :
    Expr.parse formula = .ok (.text content) ↔
      ∃ before after, formula.toList =
          before ++ ('\'' :: doubled '\'' content.toList ++ ['\'']) ++ after ∧
        (∀ c ∈ before, isSpace c = true) ∧ ∀ c ∈ after, isSpace c = true := by
  constructor
  · intro h
    cases hscan : scan formula with
    | error e =>
      rw [Expr.parse, hscan] at h
      cases h
    | ok scanned =>
      obtain ⟨d, htokens, hexpr⟩ := (parse_eq_ok_iff hscan _).mp h
      have hkinds := d.tokens_expr
      rw [htokens, hexpr, Expr.tokens, List.forall₂_cons_right_iff] at hkinds
      obtain ⟨kind, kinds, hkind, hnil, hkinds⟩ := hkinds
      rw [List.forall₂_nil_right_iff] at hnil
      cases hkind
      subst hnil
      obtain ⟨before, spelling, after, hformula, hs, hspace⟩ :=
        (laid_of_tokensFrom (scan_eq_ok_iff.mp hscan).1).1.single hkinds
      obtain rfl := List.mem_singleton.mp hs
      exact ⟨before, after, hformula, hspace⟩
  · rintro ⟨before, after, hformula, hbefore, hafter⟩
    have hquote : after.head? ≠ some '\'' := by
      intro hq
      have := hafter '\'' (List.mem_of_mem_head? hq)
      revert this
      decide
    have hscan : scan formula = .ok ⟨[⟨before.length, .text content⟩], formula.length⟩ := by
      have hend := tokensFrom_spaces hafter
        (before.length + 1 + (doubled '\'' content.toList ++ ['\'']).length) []
      rw [List.append_nil, tokensFrom] at hend
      rw [scan_eq_ok_iff, hformula, List.append_assoc, tokensFrom_spaces hbefore, Nat.zero_add,
        List.cons_append, tokensFrom_token (by decide) (headToken_text before.length hquote), hend]
      exact ⟨rfl, rfl⟩
    exact parse_of_primary hscan ⟨.text content, rfl, rfl⟩

theorem stands_of_scan {formula : String} {scanned : Scan} (h : scan formula = .ok scanned) :
    ∀ kind ∈ scanned.kinds, kind.Stands :=
  List.forall_mem_map.mpr (laid_of_tokensFrom (scan_eq_ok_iff.mp h).1).2

theorem parts_of_scan {formula : String} {scanned : Scan} (h : scan formula = .ok scanned)
    {digits : String} (hd : .number digits ∈ scanned.kinds) :
    ∃ whole fraction exponent, Parts whole fraction exponent ∧
      digits.toList = whole ++ fraction ++ exponent := by
  obtain ⟨c, cs, hcs, -, hhead⟩ := stands_of_scan h _ hd _ (List.mem_singleton_self _)
  have hbegins := begins_of_headToken (hhead 0 [] (by simp))
  generalize hkind : Kind.number digits = kind, cs.length = width at hbegins
  cases hbegins with
  | mark hm =>
    subst hkind
    unfold mark? at hm
    split at hm <;> cases hm
  | comparison hle hk =>
    subst hkind
    simp at hk
  | number hc hnumber =>
    obtain ⟨whole, fraction, exponent, hparts, htake⟩ := exists_parts hnumber
    cases hkind
    exact ⟨whole, fraction, exponent, hparts, by rw [String.toList_ofList, htake]⟩
  | _ => cases hkind

/-- **Scanning loses nothing.** The formula is the spellings of its tokens, each at its position,
with white space around them; the positions go up and lie before the end, which is the length of the
formula.  And however the tokens are spelled, with a blank between any two of them they are scanned
as the same tokens again. -/
theorem scan_laid {formula : String} {scanned : Scan} (h : scan formula = .ok scanned) :
    Laid 0 formula.toList scanned.tokens ∧
    scanned.size = formula.length ∧
    (scanned.tokens.map Token.position ++ [scanned.size]).Pairwise (· < ·) ∧
    ∀ spellings, List.Forall₂ (fun kind spelling => spelling ∈ kind.spellings)
      scanned.kinds spellings →
      ∃ again, scan (String.ofList ([' '].intercalate spellings)) = .ok again ∧
        again.kinds = scanned.kinds := by
  obtain ⟨htokens, hsize⟩ := scan_eq_ok_iff.mp h
  have hlaid := (laid_of_tokensFrom htokens).1
  have hpositions := hlaid.pairwise_positions.1
  rw [Nat.zero_add, String.length_toList, ← hsize] at hpositions
  refine ⟨hlaid, hsize, hpositions, fun spellings hs => ?_⟩
  have hall : List.Forall₂ (fun kind spelling => kind.Stands ∧ spelling ∈ kind.spellings)
      scanned.kinds spellings := (List.forall₂_and_left _ _).mpr ⟨stands_of_scan h, hs⟩
  obtain ⟨again, hscan, hkinds⟩ := exists_tokensFrom_intercalate hall 0
  rw [← String.toList_ofList (l := [' '].intercalate spellings)] at hscan
  exact ⟨⟨again, _⟩, scan_eq_ok_iff.mpr ⟨hscan, rfl⟩, hkinds⟩

theorem scan_laid_choice :
    let tokens : List Token := [⟨0, .ident "if"⟩, ⟨2, .leftParen⟩, ⟨3, .ident "b2"⟩, ⟨5, .ne⟩,
      ⟨8, .text "it's"⟩, ⟨15, .comma⟩, ⟨16, .number "1e3"⟩, ⟨20, .comma⟩, ⟨21, .number ".5"⟩,
      ⟨23, .rightParen⟩]
    scan "if(b2<> 'it''s';1e3 ,.5)" = .ok ⟨tokens, 24⟩ ∧
    Laid 0 "if(b2<> 'it''s';1e3 ,.5)".toList tokens ∧
    ∃ again, scan "if ( b2 <> 'it''s' , 1e3 ; .5 )" = .ok again ∧
      again.kinds = tokens.map Token.kind := by
  intro tokens
  have hscan : scan "if(b2<> 'it''s';1e3 ,.5)" = .ok ⟨tokens, 24⟩ := by
    with_unfolding_all rfl
  obtain ⟨hlaid, -, -, hagain⟩ := scan_laid hscan
  let spellings : List (List Char) := ["if".toList, "(".toList, "b2".toList, "<>".toList,
    "'it''s'".toList, ",".toList, "1e3".toList, ";".toList, ".5".toList, ")".toList]
  have hspellings : List.Forall₂ (fun kind spelling => spelling ∈ kind.spellings)
      (tokens.map Token.kind) spellings := by
    simp only [tokens, spellings, List.map_cons, List.map_nil, List.forall₂_cons,
      List.forall₂_nil_right_iff]
    decide
  have hjoined : String.ofList ([' '].intercalate spellings) =
      "if ( b2 <> 'it''s' , 1e3 ; .5 )" := by decide
  rw [← hjoined]
  exact ⟨hscan, hlaid, hagain spellings hspellings⟩

end AdaptiveForm.Formula
