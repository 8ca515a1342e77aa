import AdaptiveForm.Proofs.Field.Expansion
import AdaptiveForm.Proofs.Rule.Splice
import Mathlib.Data.List.Basic
import Mathlib.Tactic.SplitIfs

/-!
# Options that are loaded

A field with a reference requests its options when it is initialized, and takes the lists that it
names out of the answer.  Both rules are written around texts of the sheet as these are: the address
and the event stand between single quotes, and what is named stands behind `$event.payload.` as the
value of an entry.

A text that is put between quotes so ends where it was written to end exactly if it is `Unbroken`,
if every quote in it has a backslash of its own; and among option lists of names one with a second
part breaks the object that it stands in.  `build_loads` says which rules are written, and from
which texts they pass the check.
-/

namespace AdaptiveForm

namespace Rule

/-! ### Texts between quotes as they are -/

/-- Taken from the left, each backslash with the character behind it, there is no quote and no
backslash is left at the end. -/
inductive Unbroken : List Char → Prop
  | nil : Unbroken []
  | char {c : Char} {cs : List Char} (hc : c ≠ '\\') (hq : c ≠ '\'') (h : Unbroken cs) :
      Unbroken (c :: cs)
  | pair {c : Char} {cs : List Char} (h : Unbroken cs) : Unbroken ('\\' :: c :: cs)

/-- A text between single quotes, with nothing in it escaped. -/
def rawLiteral (text : String) : String :=
  "'" ++ text ++ "'"

variable {cs rest : List Char} {text : String}

theorem toList_rawLiteral (text : String) :
    (rawLiteral text).toList = '\'' :: (text.toList ++ ['\'']) := by
  simp [rawLiteral]

theorem Unbroken.quotedWidth_eq (h : Unbroken cs) (rest : List Char) :
    quotedWidth '\'' (cs ++ '\'' :: rest) = some (cs.length + 1) := by
  induction h with
  | nil => simp [quotedWidth_cons]
  | char hc hq _ ih => simp [quotedWidth_cons hc, hq, ih]
  | pair _ ih => simp [quotedWidth_backslash, ih]

/-- A text that ends where it was written to end has a backslash for every quote. -/
theorem unbroken_of_quotedWidth_eq : ∀ {cs : List Char},
    quotedWidth '\'' (cs ++ '\'' :: rest) = some (cs.length + 1) → Unbroken cs
  | [], _ => .nil
  | c :: cs, h => by
    rw [List.cons_append] at h
    by_cases hc : c = '\\'
    · subst hc
      cases cs with
      | nil =>
        -- the backslash takes the closing quote along
        rw [List.nil_append, quotedWidth_backslash] at h
        exact absurd (by simpa using h) (quotedWidth_ne_zero '\'' rest)
      | cons d cs =>
        rw [List.cons_append, quotedWidth_backslash] at h
        exact .pair (unbroken_of_quotedWidth_eq (by simpa using h))
    · rw [quotedWidth_cons hc] at h
      split_ifs at h with hq
      · simp at h
      · exact .char hc hq (unbroken_of_quotedWidth_eq (by simpa using h))

theorem unbroken_of_all (h : cs.all (fun c => c != '\\' && c != '\'') = true) : Unbroken cs := by
  induction cs with
  | nil => exact .nil
  | cons c cs ih =>
    simp only [List.all_cons, Bool.and_eq_true, bne_iff_ne] at h
    exact .char h.1.1 h.1.2 (ih h.2)

theorem endsWhole_rawLiteral_iff :
    EndsWhole (rawLiteral text) rest ↔ Unbroken text.toList := by
  have hwidth : EndsWhole (rawLiteral text) rest ↔
      quotedWidth '\'' (text.toList ++ '\'' :: rest) = some (text.toList.length + 1) := by
    simp [EndsWhole, toList_rawLiteral]
  rw [hwidth]
  exact ⟨unbroken_of_quotedWidth_eq, fun h => h.quotedWidth_eq rest⟩

theorem Unbroken.check_rawLiteral (h : Unbroken text.toList) :
    check (rawLiteral text) = .ok () := by
  have hwidth := h.quotedWidth_eq []
  have htoken : headToken '\'' (text.toList ++ ['\'']) =
      .ok (.text, (text.toList ++ ['\'']).length) := by
    rw [headToken, if_pos (by decide), hwidth]
    simp [quotedKind]
  rw [check_eq_ok_iff_splits, toList_rawLiteral]
  refine ⟨[.text (unquoted ('\'' :: (text.toList ++ ['\''])))], ?_, ?_⟩
  · rw [lexemes_token (by decide) _ .text (List.append_nil _).symm htoken, lexemes_nil]
    rfl
  · exact (MakesUnsigned.of_primary .text).operand.rule

/-! ### The rules that load options -/

theorem requestExpression_eq (url event : String) : Field.requestExpression url event =
    "request" ++ "(" ++
      String.intercalate ", " [rawLiteral url, "'GET'", "null", rawLiteral event] ++ ")" := by
  rw [← String.toList_inj]
  simp [Field.requestExpression, rawLiteral]

theorem check_requestExpression {url event : String} (hurl : Unbroken url.toList)
    (hevent : Unbroken event.toList) : check (Field.requestExpression url event) = .ok () := by
  have hcallable : IsCallable "request" := by decide
  rw [requestExpression_eq]
  refine check_call hcallable isComma_blank (List.cons_ne_nil _ _) ?_
  intro rule hrule
  simp only [List.mem_cons, List.not_mem_nil, or_false] at hrule
  rcases hrule with rfl | rfl | rfl | rfl
  · exact hurl.check_rawLiteral
  · with_unfolding_all rfl
  · with_unfolding_all rfl
  · exact hevent.check_rawLiteral

end Rule

namespace Field

open AdaptiveForm.Rule AdaptiveForm.Text

variable {field : Field} {reference : Json}

/-! ### What is written -/

/-- The text that stands for an option list: a text is split into its parts and joined again. -/
def optionText : Json → String
  | .string s => String.intercalate "," ((Text.split ',' s).map Text.trim)
  | value => value.plainText

def optionPaths (row : Field) : List (String × String) :=
  ["enum", "enumNames"].filterMap fun key =>
    (((row.get? key).map optionText).filter fun path => !path.isEmpty).map (key, ·)

theorem optionPaths_congr {field' : Field}
    (h : ∀ key ∈ ["enum", "enumNames"], field'.get? key = field.get? key) :
    field'.optionPaths = field.optionPaths :=
  List.filterMap_congr fun key hkey => by rw [h key hkey]

def payloadPath (path : String) : String :=
  "$event.payload." ++ path

def projectionText (entry : String × String) : String :=
  entry.1 ++ ": " ++ payloadPath entry.2

/-- The rule that takes the option lists of a row out of the payload. -/
def optionsExpression (row : Field) : String :=
  projectionExpression (row.optionPaths.map projectionText)

theorem plainTexts_map_string (texts : List String) :
    Json.plainTexts (texts.map .string) = texts := by
  induction texts with
  | nil => rfl
  | cons text texts ih => rw [List.map_cons, Json.plainTexts, Json.plainText, ih]

theorem map_plainText_splitValues (row : Field) (key : String) :
    ((row.splitValues key).get? key).map Json.plainText = (row.get? key).map optionText := by
  rw [splitValues]
  split
  · rename_i s hs
    have hparts : valueParts s = ((Text.split ',' s).map Text.trim).map Json.string := by
      rw [List.map_map]
      rfl
    rw [Entries.get?_insert_self, hs, Option.map_some, Option.map_some, Json.plainText, hparts,
      plainTexts_map_string, optionText]
  · rename_i hother
    cases hvalue : row.get? key with
    | none => rfl
    | some value =>
      cases value with
      | string s => exact absurd hvalue (hother s)
      | _ => rfl

theorem projection?_eq_map (field : Field) (key : String) : field.projection? key =
    (((field.get? key).map Json.plainText).filter fun path => !path.isEmpty).map fun path =>
      projectionText (key, path) := by
  have htext : ∀ path, key ++ ": $event.payload." ++ path = projectionText (key, path) := by
    intro path
    rw [← String.toList_inj]
    simp [projectionText, payloadPath]
  rw [projection?]
  cases (field.get? key).map Json.plainText with
  | none => rfl
  | some path =>
    dsimp only
    rw [Option.filter_some, htext]
    cases path.isEmpty <;> rfl

theorem projections_splitValues (row : Field) :
    ((row.splitValues "enum").splitValues "enumNames").projections =
      row.optionPaths.map projectionText := by
  have henum : (((row.splitValues "enum").splitValues "enumNames").get? "enum").map
      Json.plainText = (row.get? "enum").map optionText := by
    rw [get?_splitValues (by decide), map_plainText_splitValues]
  have hnames : (((row.splitValues "enum").splitValues "enumNames").get? "enumNames").map
      Json.plainText = (row.get? "enumNames").map optionText := by
    rw [map_plainText_splitValues, get?_splitValues (by decide)]
  rw [projections, optionPaths, List.map_filterMap]
  simp only [List.filterMap_cons, List.filterMap_nil, projection?_eq_map, henum, hnames,
    Option.map_map]
  rfl

theorem getPath?_request (h : field.get? "enumRef" = some reference) :
    getPath? field.applyOptionsReference ["events", "initialize"] = some (.string
      (requestExpression reference.plainText (optionsLoaded (field.name?.getD "")))) := by
  rw [applyOptionsReference, h]
  dsimp only
  split
  · exact getPath?_setEvent_self _ _ _
  · rw [getPath?_setEvent (custom_ne (by decide) _)]
    exact getPath?_setEvent_self _ _ _

/-- If it names option lists, it takes them out of the answer. -/
theorem getPath?_custom (h : field.get? "enumRef" = some reference)
    (hne : field.projections ≠ []) :
    getPath? field.applyOptionsReference
        ["events", "custom:" ++ optionsLoaded (field.name?.getD "")] =
      some (.string (projectionExpression field.projections)) := by
  rw [applyOptionsReference, h]
  dsimp only
  split
  · rename_i hnil
    exact absurd hnil hne
  · exact getPath?_setEvent_self _ _ _

/-! ### What passes -/

theorem isWord_of_mem_optionPaths {entry : String × String} (h : entry ∈ field.optionPaths) :
    isWord entry.1.toList = true := by
  have hwords : ∀ key ∈ ["enum", "enumNames"], isWord key.toList = true :=
    List.forall_mem_cons.mpr ⟨rfl, List.forall_mem_singleton.mpr rfl⟩
  obtain ⟨key, hkey, hentry⟩ := List.mem_filterMap.mp h
  obtain ⟨path, -, rfl⟩ := Option.map_eq_some_iff.mp hentry
  exact hwords key hkey

/-- Lists each of which is a path by itself are taken out by a rule that passes. -/
theorem check_optionsExpression
    (h : ∀ entry ∈ field.optionPaths, check (payloadPath entry.2) = .ok ()) :
    check field.optionsExpression = .ok () := by
  by_cases hnil : field.optionPaths = []
  · rw [optionsExpression, hnil]
    with_unfolding_all rfl
  · have hwords : ∀ entry ∈ field.optionPaths, isWord entry.1.toList = true :=
      fun _ => isWord_of_mem_optionPaths
    have hobject := check_object isComma_blank (.inr rfl)
      (mt List.map_eq_nil_iff.mp hnil : field.optionPaths.map
        (fun entry => (entry.1, payloadPath entry.2)) ≠ [])
      (List.forall_mem_map.mpr hwords) (List.forall_mem_map.mpr h)
    have htext : ∀ inside, projectionExpression inside =
        "\x7b" ++ " " ++ String.intercalate ", " inside ++ " " ++ "\x7d" := by
      intro inside
      rw [← String.toList_inj]
      simp [projectionExpression]
    rw [List.map_map] at hobject
    rw [optionsExpression, htext]
    exact hobject

/-! ### Lists of names -/

def isNamePath (cs : List Char) : Bool :=
  (splitChars '.' cs).all isWord

theorem check_payloadPath {path : String} (h : isNamePath path.toList = true) :
    check (payloadPath path) = .ok () := by
  have hpath : IsPathOf (payloadPath path) "$event"
      ("payload".toList :: splitChars '.' path.toList) := {
    context := ⟨"event".toList, rfl, List.all_eq_true.mp (by rfl)⟩
    text := by
      cases hs : splitChars '.' path.toList with
      | nil => exact absurd hs (splitChars_ne_nil '.' _)
      | cons part parts =>
        rw [payloadPath, String.toList_append, splitChars_eq_cons hs]
        simp }
  have hwords : ∀ name ∈ "payload".toList :: splitChars '.' path.toList, isWord name = true := by
    rw [List.forall_mem_cons]
    exact ⟨rfl, List.all_eq_true.mp h⟩
  have hspelled := hpath.spelled (List.cons_ne_nil _ _) hwords
  rw [check_eq_ok_iff_splits]
  exact ⟨_, hspelled.lexemes, MakesOperand.rule ⟨_, .plain .context (derives_members _ _)⟩⟩

/-- No name and no colon begins with these characters. -/
def BeginsBehind (cs : List Char) : Prop :=
  (∀ c ∈ cs.head?, isWordPart c = false) ∧
    ∀ ls, lexemes cs = some ls → ∃ l ls', ls = l :: ls' ∧ l ≠ .colon

theorem beginsBehind_cons {c : Char} (h : c = '.' ∨ c = ',') (cs : List Char) :
    BeginsBehind (c :: cs) := by
  constructor
  · rcases h with rfl | rfl <;> simp <;> decide
  · intro _ hls
    rcases h with rfl | rfl
    all_goals
      rw [lexemes_mark rfl (by decide)] at hls
      obtain ⟨ls, -, rfl⟩ := Option.map_eq_some_iff.mp hls
      exact ⟨_, ls, rfl, by simp [Lexeme.of]⟩

theorem beginsBehind_close : BeginsBehind [' ', '}'] := by
  refine ⟨by simp; decide, ?_⟩
  intro ls hls
  cases (by with_unfolding_all rfl : lexemes [' ', '}'] = some [.rightBrace]).symm.trans hls
  exact ⟨_, _, rfl, by simp⟩

theorem BeginsBehind.flatMap {separator : Char} (hs : separator = '.' ∨ separator = ',')
    (parts : List (List Char)) {cs : List Char} (h : BeginsBehind cs) :
    BeginsBehind (parts.flatMap (separator :: ·) ++ cs) := by
  cases parts with
  | nil => exact h
  | cons part parts =>
    rw [List.flatMap_cons, List.cons_append, List.cons_append]
    exact beginsBehind_cons hs _

/-- A list with a second part breaks the object that it stands in. -/
theorem stuck_list {key path : String} (hkey : isWord key.toList = true)
    (hparts : ∀ part ∈ splitChars ',' path.toList, isNamePath part = true)
    (hcomma : ',' ∈ path.toList) {cs : List Char} (h : BeginsBehind cs) :
    Stuck ((projectionText (key, path)).toList ++ cs) := by
  cases hs : splitChars ',' path.toList with
  | nil => exact absurd hs (splitChars_ne_nil ',' _)
  | cons first more =>
    have hpath := splitChars_eq_cons hs
    rw [hs] at hparts
    cases more with
    | nil =>
      have hfirst := not_mem_of_mem_splitChars (hs ▸ List.mem_cons_self)
      rw [List.flatMap_nil, List.append_nil] at hpath
      exact absurd (hpath ▸ hcomma) hfirst
    | cons second more =>
      have hsecond : isNamePath second = true := hparts second (by simp)
      cases hnames : splitChars '.' second with
      | nil => exact absurd hnames (splitChars_ne_nil '.' _)
      | cons name names =>
        have hentry : Splits MakesEntry
            (projectionText (key, String.ofList first)).toList := by
          refine splits_entry hkey ((check_eq_ok_iff_splits _).mp (check_payloadPath ?_))
          rw [String.toList_ofList]
          exact hparts first List.mem_cons_self
        have hbehind := (h.flatMap (.inr rfl) more).flatMap (.inl rfl) names
        have hname : isWord name = true := by
          rw [isNamePath, hnames, List.all_cons, Bool.and_eq_true] at hsecond
          exact hsecond.1
        have htext : (projectionText (key, path)).toList ++ cs =
            (projectionText (key, String.ofList first)).toList ++
              ',' :: (name ++ (names.flatMap ('.' :: ·) ++ (more.flatMap (',' :: ·) ++ cs))) := by
          simp [projectionText, payloadPath, hpath, splitChars_eq_cons hnames]
        rw [htext]
        exact stuck_word hentry hname hbehind.1 hbehind.2

/-- **Among lists of names one with a second part breaks the object**, wherever it stands. -/
theorem stuck_lists {entries : List (String × String)}
    (hkeys : ∀ entry ∈ entries, isWord entry.1.toList = true)
    (hparts : ∀ entry ∈ entries, ∀ part ∈ splitChars ',' entry.2.toList, isNamePath part = true)
    (hcomma : ∃ entry ∈ entries, ',' ∈ entry.2.toList) :
    Stuck ((String.intercalate ", " (entries.map projectionText)).toList ++ [' ', '}']) := by
  induction entries with
  | nil =>
    obtain ⟨entry, hmem, -⟩ := hcomma
    cases hmem
  | cons entry entries ih =>
    rw [List.forall_mem_cons] at hkeys hparts
    cases entries with
    | nil =>
      rw [List.map_singleton, String.intercalate_singleton]
      exact stuck_list hkeys.1 hparts.1 (by simpa using hcomma) beginsBehind_close
    | cons next entries =>
      have htext : (String.intercalate ", "
          ((entry :: next :: entries).map projectionText)).toList ++ [' ', '}'] =
          (projectionText entry).toList ++ ',' :: ' ' ::
            ((String.intercalate ", " ((next :: entries).map projectionText)).toList ++
              [' ', '}']) := by
        rw [List.map_cons, List.map_cons, String.intercalate_cons_cons]
        simp
      rw [htext]
      by_cases hfirst : ',' ∈ entry.2.toList
      · exact stuck_list hkeys.1 hparts.1 hfirst (beginsBehind_cons (.inr rfl) _)
      · rw [splitChars_of_not_mem hfirst] at hparts
        have hpath := check_payloadPath (hparts.1 _ (List.mem_singleton_self _))
        refine Stuck.entry (splits_entry hkeys.1 ((check_eq_ok_iff_splits _).mp hpath))
          (ih hkeys.2 hparts.2 ?_)
        obtain ⟨other, hmem, hother⟩ := hcomma
        rcases List.mem_cons.mp hmem with rfl | hmem
        · exact absurd hother hfirst
        · exact ⟨other, hmem, hother⟩

/-- **Lists of names are taken out by a rule that passes exactly if none has a second part.** -/
theorem check_optionsExpression_iff (h : ∀ entry ∈ field.optionPaths,
    ∀ part ∈ splitChars ',' entry.2.toList, isNamePath part = true) :
    check field.optionsExpression = .ok () ↔ ∀ entry ∈ field.optionPaths, ',' ∉ entry.2.toList := by
  constructor
  · intro hcheck entry hmem hcomma
    have hstuck := stuck_lists (fun entry hentry => isWord_of_mem_optionPaths hentry) h
      ⟨entry, hmem, hcomma⟩
    refine hstuck.blank.check_ne ?_ hcheck
    simp [optionsExpression, projectionExpression]
  · intro hcomma
    refine check_optionsExpression fun entry hmem => check_payloadPath (h entry hmem _ ?_)
    rw [splitChars_of_not_mem (hcomma entry hmem)]
    exact List.mem_singleton_self _

/-! ### The finished field -/

/-- A field as it is when its reference is looked at: expanded, with its option lists split. -/
def listed (settings : Settings) (field : Field) : Field :=
  (((field.applySubmit settings.submission).mapType settings.mappings).expand.splitValues
    "enum").splitValues "enumNames"

theorem get?_listed (settings : Settings) (field : Field) {key : String}
    (hdot : isDotted key = false) (hkey : key ∉ ["events", "fieldType", "enum", "enumNames"]) :
    (field.listed settings).get? key = field.expand.get? key := by
  simp only [List.mem_cons, List.not_mem_nil, or_false, not_or] at hkey
  obtain ⟨hevents, htype, henum, hnames⟩ := hkey
  rw [listed, get?_splitValues hnames, get?_splitValues henum,
    get?_expand_typed settings field hdot hevents htype]

theorem projections_listed (settings : Settings) (field : Field) :
    (field.listed settings).projections =
      field.expand.optionPaths.map projectionText := by
  have hlists : ∀ key ∈ ["enum", "enumNames"],
      ((field.applySubmit settings.submission).mapType settings.mappings).expand.get? key =
        field.expand.get? key := by
    have hkeys : ∀ key ∈ ["enum", "enumNames"],
        isDotted key = false ∧ key ≠ "events" ∧ key ≠ "fieldType" := by decide
    intro key hkey
    obtain ⟨hdot, hevents, htype⟩ := hkeys key hkey
    exact get?_expand_typed settings field hdot hevents htype
  rw [listed, projections_splitValues, optionPaths_congr hlists]

/-- The events of a finished field are those that it has when its reference has been looked at. -/
theorem getPath?_events_build (settings : Settings) (field : Field) (event : String) :
    getPath? (field.build settings) ["events", event] =
      getPath? (field.listed settings).applyOptionsReference ["events", event] := by
  refine getPath?_of_get?_eq ?_ [event]
  rw [build, get?_clearPanelName (by decide), get?_coerceRequired (by decide)]
  rfl

theorem get?_enumRef_listed (settings : Settings) (field : Field) :
    (field.listed settings).get? "enumRef" = field.expand.get? "enumRef" :=
  get?_listed settings field (by decide) (by decide)

theorem name?_listed (settings : Settings) (field : Field) :
    (field.listed settings).name? = field.expand.name? := by
  rw [name?, get?_listed settings field (by decide) (by decide)]
  rfl

theorem getPath?_request_build (settings : Settings)
    (h : field.expand.get? "enumRef" = some reference) :
    getPath? (field.build settings) ["events", "initialize"] = some (.string
      (requestExpression reference.plainText (optionsLoaded (field.expand.name?.getD "")))) := by
  rw [getPath?_events_build, getPath?_request ((get?_enumRef_listed settings field).trans h),
    name?_listed]

/-- If its expanded row names option lists, it takes them out of the answer. -/
theorem getPath?_custom_build (settings : Settings)
    (h : field.expand.get? "enumRef" = some reference) (hne : field.expand.optionPaths ≠ []) :
    getPath? (field.build settings)
        ["events", "custom:" ++ optionsLoaded (field.expand.name?.getD "")] =
      some (.string field.expand.optionsExpression) := by
  have hprojections := projections_listed settings field
  have hcustom := getPath?_custom ((get?_enumRef_listed settings field).trans h)
    (by simpa [hprojections] using hne)
  rw [name?_listed, hprojections] at hcustom
  rw [getPath?_events_build]
  exact hcustom

/-- **What a field with a reference loads, and when it can.** A finished field whose expanded row
has a reference requests it when it is initialized, and takes the option lists that the row names
out of the answer.  The address and the event end where their quotes were written to end exactly if
they do not break these, and then the request passes the check.  The lists are taken out by a rule
that passes if each of them is a path by itself; and where their parts are paths of names it passes
only if there is no list with a second part. -/
theorem build_loads (settings : Settings) (field : Field) {reference : Json}
    (h : field.expand.get? "enumRef" = some reference) :
    let row := field.expand
    let url := reference.plainText
    let event := optionsLoaded (row.name?.getD "")
    let built := field.build settings
    (getPath? built ["events", "initialize"] = some (.string (requestExpression url event)) ∧
      (row.optionPaths ≠ [] → getPath? built ["events", "custom:" ++ event] =
        some (.string row.optionsExpression))) ∧
    (∀ rest, (EndsWhole (rawLiteral url) rest ↔ Unbroken url.toList) ∧
      (EndsWhole (rawLiteral event) rest ↔ Unbroken event.toList)) ∧
    (Unbroken url.toList → Unbroken event.toList →
      check (requestExpression url event) = .ok ()) ∧
    ((∀ entry ∈ row.optionPaths, check (payloadPath entry.2) = .ok ()) →
      check row.optionsExpression = .ok ()) ∧
    ((∀ entry ∈ row.optionPaths, ∀ part ∈ splitChars ',' entry.2.toList,
        isNamePath part = true) →
      (check row.optionsExpression = .ok () ↔
        ∀ entry ∈ row.optionPaths, ',' ∉ entry.2.toList)) := by
  intro row url event built
  exact ⟨⟨getPath?_request_build settings h, getPath?_custom_build settings h⟩,
    fun _ => ⟨endsWhole_rawLiteral_iff, endsWhole_rawLiteral_iff⟩,
    check_requestExpression, check_optionsExpression, check_optionsExpression_iff⟩

def countryRow : Field := [
  ("name", .string "country"), ("enumRef", .string "https://example.com/countries.json"),
  ("enum", .string "codes"), ("enumNames", .string " data.labels ")]

theorem build_loads_country :
    let url := "https://example.com/countries.json"
    let built := countryRow.build .usual
    countryRow.expand.get? "enumRef" = some (.string url) ∧
    getPath? built ["events", "initialize"] =
      some (.string (requestExpression url "countryenumRefLoaded")) ∧
    check (requestExpression url "countryenumRefLoaded") = .ok () ∧
    getPath? built ["events", "custom:countryenumRefLoaded"] = some (.string
      "\x7b enum: $event.payload.codes, enumNames: $event.payload.data.labels \x7d") ∧
    check "\x7b enum: $event.payload.codes, enumNames: $event.payload.data.labels \x7d" =
      .ok () := by
  intro url built
  have hreference : countryRow.expand.get? "enumRef" = some (.string url) := rfl
  have hevent : optionsLoaded (countryRow.expand.name?.getD "") = "countryenumRefLoaded" := rfl
  have hpaths : countryRow.expand.optionPaths =
      [("enum", "codes"), ("enumNames", "data.labels")] := rfl
  have hexpression : countryRow.expand.optionsExpression =
      "\x7b enum: $event.payload.codes, enumNames: $event.payload.data.labels \x7d" := rfl
  obtain ⟨⟨hrequested, hcustom⟩, -, hrequest, hlists, -⟩ :=
    build_loads .usual countryRow hreference
  rw [hevent] at hrequested hcustom hrequest
  rw [hexpression, hpaths] at hcustom hlists
  refine ⟨hreference, hrequested, hrequest ?_ ?_, hcustom (List.cons_ne_nil _ _), hlists ?_⟩
  · exact unbroken_of_all (by decide)
  · exact unbroken_of_all (by decide)
  · exact List.forall_mem_cons.mpr ⟨by with_unfolding_all rfl,
      List.forall_mem_singleton.mpr (by with_unfolding_all rfl)⟩

def quotedRow : Field := [("name", .string "c"), ("enumRef", .string "it's")]

def colorRow : Field := [
  ("name", .string "c"), ("enumRef", .string "colors.json"), ("enum", .string "r, g")]

/-- **A quote in the address and a comma in an option list break the rules** that are written around
them. -/
theorem not_check_build :
    getPath? (quotedRow.build .usual) ["events", "initialize"] =
      some (.string "request('it's', 'GET', null, 'cenumRefLoaded')") ∧
    check "request('it's', 'GET', null, 'cenumRefLoaded')" ≠ .ok () ∧
    getPath? (colorRow.build .usual) ["events", "custom:cenumRefLoaded"] =
      some (.string "\x7b enum: $event.payload.r,g \x7d") ∧
    check "\x7b enum: $event.payload.r,g \x7d" ≠ .ok () := by
  refine ⟨?_, ?_, ?_, ?_⟩
  · rfl
  · with_unfolding_all nofun
  · rfl
  · with_unfolding_all nofun

end Field

end AdaptiveForm
