import AdaptiveForm.Proofs.Field.Place

/-!
# Submit buttons

A submit button gets its click event in the first step of finishing, whatever handler its row has
among the events.  Of the later steps only the expansion of dotted columns can touch this event: a
column that leads into it takes its place.  So a submit button submits exactly if there is no such
column, or if the last one is the click event and holds the submit expression itself
(`submits_build_iff`).
-/

namespace AdaptiveForm.Field

open AdaptiveForm.Text

/-! ### Events -/

theorem getPath?_setEvent_self (event : String) (field : Field) (expression : String) :
    getPath? (field.setEvent event expression) ["events", event] = some (.string expression) :=
  getPath?_insertPath_self (List.cons_ne_nil _ _) _ _

theorem getPath?_setEvent {event other : String} (h : event ≠ other) (field : Field)
    (expression : String) : getPath? (field.setEvent event expression) ["events", other] =
      getPath? field ["events", other] := by
  refine getPath?_insertPath_of_apart ?_ ?_ _ _
  · simp [h]
  · simp [Ne.symm h]

theorem custom_ne {other : String} (h : ¬ "custom:".toList <+: other.toList) (event : String) :
    "custom:" ++ event ≠ other := by
  rintro rfl
  rw [String.toList_append] at h
  exact h (List.prefix_append _ _)

/-! ### The click event -/

def Submits (submission : Submission) (field : Field) : Prop :=
  ∃ events : Entries, field.get? "events" = some (.object events) ∧
    events.get? "click" = some (.string submission.clickExpression)

def clickColumns (field : Field) : List String :=
  columnsInto ["events", "click"] field

variable {field field' : Field}

theorem submits_iff {submission : Submission} : Submits submission field ↔
    getPath? field ["events", "click"] = some (.string submission.clickExpression) := by
  rw [getPath?_cons _ _ (List.cons_ne_nil _ _)]
  constructor
  · rintro ⟨events, hevents, hclick⟩
    rw [entriesAt, hevents]
    exact hclick
  · exact get?_entriesAt

/-! ### Before dotted columns are expanded -/

/-- The fields have the same dotted columns, and these hold the same values. -/
structure SameColumns (field field' : Field) : Prop where
  keys : (Entries.keys field').filter isDotted = (Entries.keys field).filter isDotted
  values : ∀ key, isDotted key = true → field'.get? key = field.get? key

theorem SameColumns.insert (h : SameColumns field field') {key : String}
    (hkey : isDotted key = false) (value : Json) :
    SameColumns field (Entries.insert field' key value) where
  keys := (filter_isDotted_insert hkey value).trans h.keys
  values k hk := by
    have hne : k ≠ key := by
      rintro rfl
      rw [hkey] at hk
      cases hk
    rw [Entries.get?_insert_of_ne _ _ hne]
    exact h.values k hk

theorem sameColumns_typed (settings : Settings) (field : Field) :
    SameColumns field ((field.applySubmit settings.submission).mapType settings.mappings) := by
  have hsubmit : SameColumns field (field.applySubmit settings.submission) := by
    rw [applySubmit]
    split_ifs
    · exact SameColumns.insert ⟨rfl, fun _ _ => rfl⟩ (by decide) _
    · exact ⟨rfl, fun _ _ => rfl⟩
  rw [mapType]
  split
  · exact hsubmit.insert (by decide) _
  · exact hsubmit

theorem getPath?_typed (settings : Settings) (h : field.type? = some submitType) :
    getPath? ((field.applySubmit settings.submission).mapType settings.mappings)
      ["events", "click"] = some (.string settings.submission.clickExpression) := by
  have hset : getPath? (field.applySubmit settings.submission) ["events", "click"] =
      some (.string settings.submission.clickExpression) := by
    rw [applySubmit, if_pos h]
    exact getPath?_setEvent_self _ _ _
  rw [mapType]
  split
  · rwa [getPath?_of_get?_eq (Entries.get?_insert_of_ne _ _ (by decide))]
  · exact hset

/-! ### After dotted columns are expanded -/

theorem getPath?_applyOptionsReference (field : Field) :
    getPath? field.applyOptionsReference ["events", "click"] =
      getPath? field ["events", "click"] := by
  rw [applyOptionsReference]
  split
  · rfl
  · dsimp only
    split
    · exact getPath?_setEvent (by decide) _ _
    · rw [getPath?_setEvent (custom_ne (by decide) _), getPath?_setEvent (by decide)]

/-- Behind the expansion of dotted columns no step touches the click event. -/
theorem getPath?_build (settings : Settings) (field : Field) :
    getPath? (field.build settings) ["events", "click"] =
      getPath? ((field.applySubmit settings.submission).mapType settings.mappings).expand
        ["events", "click"] := by
  have hevents : ∀ {field field' : Field}, field'.get? "events" = field.get? "events" →
      getPath? field' ["events", "click"] = getPath? field ["events", "click"] :=
    fun h => getPath?_of_get?_eq h ["click"]
  rw [build, hevents (get?_clearPanelName (by decide) _),
    hevents (get?_coerceRequired (by decide) _), getPath?_applyOptionsReference,
    hevents (get?_splitValues (by decide) _), hevents (get?_splitValues (by decide) _)]

/-! ### Submit buttons -/

theorem split_eq_click_iff {key : String} :
    split '.' key = ["events", "click"] ↔ key = "events.click" := by
  have hsplit : split '.' "events.click" = ["events", "click"] := by decide
  constructor
  · exact fun h => split_injective (h.trans hsplit.symm)
  · rintro rfl
    exact hsplit

/-- **A submit button submits** whatever handler its row has among the events, unless a dotted
column leads into the click event: then exactly if the last such column is the click event and holds
the submit expression itself. -/
theorem submits_build_iff (settings : Settings) (hnodup : (Entries.keys field).Nodup)
    (h : field.type? = some submitType) :
    Submits settings.submission (field.build settings) ↔
      ∀ column ∈ (clickColumns field).getLast?, column = "events.click" ∧
        field.get? column = some (.string settings.submission.clickExpression) := by
  have hclick := getPath?_typed settings h
  have hsame := sameColumns_typed settings field
  rw [submits_iff, getPath?_build]
  generalize (field.applySubmit settings.submission).mapType settings.mappings = typed
    at hclick hsame
  have hcolumns : clickColumns typed = clickColumns field := by
    rw [clickColumns, clickColumns, columnsInto, columnsInto, hsame.keys]
  have hdistinct : ((Entries.keys typed).filter isDotted).Nodup := by
    rw [hsame.keys]
    exact hnodup.filter _
  rw [← hcolumns]
  cases hlast : (clickColumns typed).getLast? with
  | none =>
    rw [getPath?_expand_of_none (by decide) hlast]
    simp [hclick]
  | some column =>
    obtain ⟨hplace, hinside⟩ := getPath?_expand_of_last (by decide) hdistinct hlast
    have hdotted : isDotted column = true :=
      (List.mem_filter.mp (List.mem_filter.mp (List.mem_of_getLast? hlast)).1).2
    simp only [Option.mem_def, Option.some.injEq, forall_eq']
    by_cases heq : column = "events.click"
    · rw [hplace (split_eq_click_iff.mpr heq), hsame.values column hdotted, and_iff_right heq]
    · -- an object stands there, and no expression
      obtain ⟨entries, hentries⟩ := hinside fun hsplit => heq (split_eq_click_iff.mp hsplit)
      rw [hentries]
      exact iff_of_false (by simp) fun hcolumn => heq hcolumn.1

/-- A submit button with a handler among its events, with columns into other events and with an
option list that is loaded. -/
def submitRow : Field := [
  ("name", .string "send"), ("fieldType", .string "submit"),
  ("events", .object [("click", .string "old()"), ("focus", .string "track()")]),
  ("events.change", .string "log()"), ("enumRef", .string "options.json"),
  ("enum", .string "codes")]

theorem submits_build_iff_loaded :
    (Entries.keys submitRow).Nodup ∧ submitRow.type? = some submitType ∧
      Submits .usual (submitRow.build .usual) := by
  have hnodup : (Entries.keys submitRow).Nodup := by decide
  have htype : submitRow.type? = some submitType := by decide
  have hcolumns : (clickColumns submitRow).getLast? = none := by decide
  refine ⟨hnodup, htype, (submits_build_iff .usual hnodup htype).mpr ?_⟩
  rw [hcolumns]
  exact nofun

def handlerRow : Field := [
  ("name", .string "send"), ("fieldType", .string "submit"), ("events.click", .string "old()")]

/-- **A click handler in a dotted column replaces the submit expression.** -/
theorem not_submits_build :
    (Entries.keys handlerRow).Nodup ∧ handlerRow.type? = some submitType ∧
      ¬ Submits .usual (handlerRow.build .usual) := by
  refine ⟨by decide, by decide, ?_⟩
  rw [submits_iff]
  have hclick : getPath? (handlerRow.build .usual) ["events", "click"] =
      some (.string "old()") := rfl
  rw [hclick, Option.some.injEq, Json.string.injEq]
  decide

end AdaptiveForm.Field
