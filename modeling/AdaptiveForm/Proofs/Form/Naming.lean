import AdaptiveForm.Proofs.Form.Document
import AdaptiveForm.Proofs.Rule.Piece

/-!
# Names in rules

A rule refers to a row by a path, in which the names of the sheet stand as they are.  The reader of
rules finds the names in it again if each of them is a word, that is, letters, digits and
underscores with no digit in front (`paths_read_iff`).  Any other name it does not find there:
`unit-price` is a difference, and behind a dot without a name it goes on with the next token.
-/

namespace AdaptiveForm

namespace Rule

open AdaptiveForm.Text

/-! ### Names among the tokens -/

theorem isWord_of_headToken {c : Char} {cs : List Char} {name : String} {width : Nat}
    (h : headToken c cs = .ok (.ident name, width)) (hname : name ≠ "") :
    isWord name.toList = true := by
  rw [headToken] at h
  dsimp only at h
  split_ifs at h with hquote hdigit hstart hcontext hdouble
  · -- the name of a quoted token is not kept
    split at h
    · have hkind : quotedKind c = .ident name := congrArg Prod.fst (Except.ok.inj h)
      unfold quotedKind at hkind
      split at hkind <;> cases hkind
      exact absurd rfl hname
    · cases h
  · cases h
  · cases h
  · cases h
    rw [String.toList_ofList, isWord, Bool.and_eq_true, List.all_eq_true]
    refine ⟨?_, fun d hd => List.mem_takeWhile_imp (p := isWordPart) hd⟩
    simpa [isWordStart, hcontext] using hstart
  · cases h
  · split at h
    · rename_i kind hmark
      cases h
      unfold mark? at hmark
      split at hmark <;> cases hmark
    · cases h

/-- **The names among the tokens of a rule are words.** -/
theorem isWord_of_mem_lexemes {cs : List Char} {ls : List Lexeme} {name : String}
    (h : lexemes cs = some ls) (hname : Lexeme.ident name ∈ ls) : isWord name.toList = true := by
  induction hn : cs.length using Nat.strong_induction_on generalizing cs ls with
  | _ n ih =>
    cases cs with
    | nil =>
      rw [lexemes_nil] at h
      cases h
      cases hname
    | cons c cs =>
      rw [lexemes] at h
      split_ifs at h with hspace
      · exact ih cs.length (by simp [← hn]) h hname rfl
      · split at h
        · cases h
        · rename_i kind width hhead
          obtain ⟨rest, hrest, rfl⟩ := Option.map_eq_some_iff.mp h
          rcases List.mem_cons.mp hname with hfirst | hlater
          · have hkind : kind = .ident name := by
              rw [← Lexeme.kind_of (c :: cs.take width) kind, ← hfirst, Lexeme.kind]
            subst hkind
            refine isWord_of_headToken hhead ?_
            rintro rfl
            rw [Lexeme.of, if_pos rfl] at hfirst
            cases hfirst
          · refine ih (cs.drop width).length ?_ hrest hlater rfl
            simp only [← hn, List.length_drop, List.length_cons]
            omega

/-! ### Paths -/

def memberKinds (names : List String) : List Kind :=
  names.flatMap fun name => [.dot, .ident name]

/-- The text is one path to the check: a context, and a dot and a name for each of the names. -/
def ReadsAsPath (path root : String) (names : List String) : Prop :=
  ∃ tokens, scan path = .ok tokens ∧ tokens.map Token.kind = .context root :: memberKinds names

theorem kind_memberLexemes (names : List String) :
    (memberLexemes (names.map String.toList)).map Lexeme.kind = memberKinds names := by
  rw [memberLexemes, memberKinds, List.flatMap_map, List.map_flatMap]
  simp

theorem head?_lexemes_members {names : List (List Char)} {l : Lexeme} {ls : List Lexeme}
    (h : lexemes (names.flatMap ('.' :: ·)) = some (l :: ls)) : l = .dot := by
  cases names with
  | nil =>
    rw [List.flatMap_nil, lexemes_nil] at h
    cases h
  | cons name names =>
    rw [List.flatMap_cons, List.cons_append, lexemes_mark (c := '.') rfl (by decide)] at h
    obtain ⟨rest, -, heq⟩ := Option.map_eq_some_iff.mp h
    exact (List.cons.inj heq).1.symm

/-- **Names with dots before them are read as themselves if and only if they are words.** -/
theorem lexemes_members_iff (names : List String) :
    (lexemes ((names.map String.toList).flatMap ('.' :: ·))).map (List.map Lexeme.kind) =
      some (memberKinds names) ↔ ∀ name ∈ names, isWord name.toList = true := by
  constructor
  · intro h
    induction names with
    | nil => exact fun _ hname => absurd hname List.not_mem_nil
    | cons name names ih =>
      have hsplit : ((name :: names).map String.toList).flatMap ('.' :: ·) =
          '.' :: (name.toList ++ (names.map String.toList).flatMap ('.' :: ·)) := rfl
      have hkinds : memberKinds (name :: names) = .dot :: .ident name :: memberKinds names := rfl
      rw [hsplit, hkinds, lexemes_mark (c := '.') rfl (by decide), Option.map_map,
        Option.map_eq_some_iff] at h
      obtain ⟨ls, hls, hmap⟩ := h
      obtain ⟨-, hmap⟩ := List.cons.inj hmap
      obtain ⟨l, ls, rfl, hl, hrest⟩ := List.map_eq_cons_iff.mp hmap
      have hword : isWord name.toList = true := by
        cases l with
        | ident found =>
          cases hl
          exact isWord_of_mem_lexemes hls List.mem_cons_self
        | quoted found =>
          -- the name would be empty, and a dot or nothing behind it
          cases hl
          cases head?_lexemes_members hls
        | _ => cases hl
      rw [lexemes_isWord hword (head?_members _)] at hls
      obtain ⟨later, hlater, heq⟩ := Option.map_eq_some_iff.mp hls
      obtain ⟨-, rfl⟩ := List.cons.inj heq
      exact List.forall_mem_cons.mpr ⟨hword, ih (by rw [hlater, Option.map_some, hrest])⟩
  · intro h
    have hwords : ∀ name ∈ names.map String.toList, isWord name = true := List.forall_mem_map.mpr h
    rw [(spelled_members hwords).lexemes, Option.map_some, kind_memberLexemes]

/-- **A path is read as its names if and only if they are words.** -/
theorem IsPathOf.readsAsPath_iff {path root : String} {names : List String}
    (h : IsPathOf path root (names.map String.toList)) :
    ReadsAsPath path root names ↔ ∀ name ∈ names, isWord name.toList = true := by
  have hlexemes := h.lexemes []
  rw [List.append_nil, List.append_nil] at hlexemes
  rw [← lexemes_members_iff, ReadsAsPath, exists_scan_iff, hlexemes (head?_members _)]
  cases Rule.lexemes ((names.map String.toList).flatMap ('.' :: ·)) with
  | none => exact ⟨nofun, nofun⟩
  | some ls => simp

end Rule

/-! ### Paths of rows -/

open Rule

theorem toList_formPath {names : List String} (hne : names ≠ []) : (formPath names).toList =
    "$form".toList ++ (names.map String.toList).flatMap ('.' :: ·) := by
  cases names with
  | nil => exact absurd rfl hne
  | cons name names =>
    rw [formPath, String.toList_append, Text.toList_intercalate, List.map_cons, List.flatMap_cons]
    rfl

theorem isPathOf_formPath {names : List String} (hne : names ≠ []) :
    IsPathOf (formPath names) "$form" (names.map String.toList) where
  context := ⟨"form".toList, rfl, List.all_eq_true.mp (by rfl)⟩
  text := toList_formPath hne

theorem isPathOf_propertyPath (name : String) :
    IsPathOf (propertyPath name) "$properties" [name.toList] where
  context := ⟨"properties".toList, rfl, List.all_eq_true.mp (by rfl)⟩
  text := by
    rw [propertyPath, String.toList_append, List.flatMap_singleton]
    rfl

def Built.context : Built → String
  | .field _ => "$form"
  | .property _ => "$properties"

def Built.names (tree : Tree) : Built → List String
  | .field id => tree.path id
  | .property name => [name]

/-- **A row's path is that to what the row became.** -/
theorem Trace.isPathOf_paths {trace : Trace} {tree : Tree} {r : Nat} {path : String}
    (h : trace.paths tree r = some path) :
    ∃ built, trace.get? r = some built ∧ built.names tree ≠ [] ∧
      IsPathOf path built.context ((built.names tree).map String.toList) := by
  rw [Trace.paths] at h
  split at h
  · cases h
  · rename_i name hbuilt
    cases h
    exact ⟨_, hbuilt, List.cons_ne_nil name [], isPathOf_propertyPath name⟩
  · rename_i id hbuilt
    split at h
    · cases h
    · rename_i hne
      cases h
      exact ⟨_, hbuilt, hne, isPathOf_formPath hne⟩

open Rows

/-- **The path of a row is read as its names if and only if these are words.** Whatever the rows
are, the path of a row leads by at least one name to what the row became.  The check reads it as the
context, and a dot and the name for each of the names, if and only if all names are words; and then
it is the same operand in front of whatever a rule goes on with. -/
theorem paths_read_iff {settings : Settings} {rows : List Json} {r : Nat} {path : String}
    (h : paths settings rows r = some path) :
    ∃ built, (Pass.ofRows settings rows).trace.get? r = some built ∧
      let names := built.names (Pass.ofRows settings rows).tree
      names ≠ [] ∧
      (ReadsAsPath path built.context names ↔ ∀ name ∈ names, isWord name.toList = true) ∧
      ((∀ name ∈ names, isWord name.toList = true) →
        Spelled path.toList
          (.context built.context :: memberLexemes (names.map String.toList))) := by
  obtain ⟨built, hbuilt, hne, hpath⟩ := Trace.isPathOf_paths h
  refine ⟨built, hbuilt, hne, hpath.readsAsPath_iff, fun hwords => ?_⟩
  exact hpath.spelled (mt List.map_eq_nil_iff.mp hne) (List.forall_mem_map.mpr hwords)

def wordRows : List Json := [
  .object [("name", .string "order"), ("fieldType", .string "panel"), ("type", .string "object")],
  .object [("name", .string "price_1"), ("parent", .string "order")],
  .object [("name", .string "rate"), ("fieldType", .string "property")]]

theorem paths_read_iff_words :
    paths .usual wordRows 3 = some "$form.order.price_1" ∧
    paths .usual wordRows 4 = some "$properties.rate" ∧
    ReadsAsPath "$form.order.price_1" "$form" ["order", "price_1"] ∧
    ReadsAsPath "$properties.rate" "$properties" ["rate"] := by
  have hfield : paths .usual wordRows 3 = some "$form.order.price_1" := by decide +kernel
  have hproperty : paths .usual wordRows 4 = some "$properties.rate" := by decide +kernel
  have hbuilt : (Pass.ofRows .usual wordRows).trace.get? 3 = some (.field 1) := by decide +kernel
  have hnames : (Pass.ofRows .usual wordRows).tree.path 1 = ["order", "price_1"] := by
    decide +kernel
  have hbuilt' : (Pass.ofRows .usual wordRows).trace.get? 4 = some (.property "rate") := by
    decide +kernel
  refine ⟨hfield, hproperty, ?_, ?_⟩
  · obtain ⟨built, htrace, -, hreads, -⟩ := paths_read_iff hfield
    cases hbuilt.symm.trans htrace
    rw [Built.names, hnames] at hreads
    exact hreads.mpr (by decide +kernel)
  · obtain ⟨built, htrace, -, hreads, -⟩ := paths_read_iff hproperty
    cases hbuilt'.symm.trans htrace
    exact hreads.mpr (by decide +kernel)

/-- A row whose name is no word, a row that refers to it, and a property without a name. -/
def hyphenRows : List Json := [
  .object [("name", .string "unit-price")],
  .object [("name", .string "total"), ("rules.value", .string "=B2*2")],
  .object [("name", .array [.ofNat 1]), ("fieldType", .string "property")]]

/-- **A name with a hyphen is read as a difference, and no name as none.** The rule of the row that
refers to the name passes the check all the same. -/
theorem paths_not_read :
    paths .usual hyphenRows 2 = some "$form.unit-price" ∧
    (Pass.ofRows .usual hyphenRows).tree.path 0 = ["unit-price"] ∧
    ¬ ReadsAsPath "$form.unit-price" "$form" ["unit-price"] ∧
    (∃ tokens, scan "$form.unit-price" = .ok tokens ∧ tokens.map Token.kind =
      [.context "$form", .dot, .ident "unit", .minus, .ident "price"]) ∧
    (compile (paths .usual hyphenRows) true "=B2*2").toOption = some "$form.unit-price * 2" ∧
    paths .usual hyphenRows 4 = some "$properties." ∧
    (∃ tokens, scan "$properties." = .ok tokens ∧
      tokens.map Token.kind = [.context "$properties", .dot]) := by
  have hscan : scan "$form.unit-price" = .ok [⟨0, .context "$form"⟩, ⟨5, .dot⟩,
      ⟨6, .ident "unit"⟩, ⟨10, .minus⟩, ⟨11, .ident "price"⟩] := by decide +kernel
  have hscan' : scan "$properties." = .ok [⟨0, .context "$properties"⟩, ⟨11, .dot⟩] := by
    decide +kernel
  refine ⟨by decide +kernel, by decide +kernel, ?_, ⟨_, hscan, rfl⟩, by decide +kernel,
    by decide +kernel, ⟨_, hscan', rfl⟩⟩
  rintro ⟨tokens, htokens, hkinds⟩
  cases hscan.symm.trans htokens
  revert hkinds
  decide

end AdaptiveForm
