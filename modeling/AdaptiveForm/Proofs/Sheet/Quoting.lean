import AdaptiveForm.Sheet.Delimited
import Mathlib.Tactic.SplitIfs

/-!
# Writing delimited text

A record is written with all its fields in quotes, and a quote inside a field twice.  Reading goes
through such a text field by field: between the quotes every symbol is taken as it is
(`Stands.quoted`), and only the symbol behind the closing quote tells whether the record goes on or
ends (`Stands.delimiter`, `Stands.lineEnd`).  So what has been written is read back, whatever the
fields hold: `records_write`.  A record without fields is an empty line, which is no record.
-/

namespace AdaptiveForm.Delimited

variable {α : Type} [DecidableEq α]

/-- The symbols can be told apart: quotes, delimiters and line ends are different ones. -/
structure Dialect.Distinct (dialect : Dialect α) : Prop where
  quote_ne_delimiter : dialect.quote ≠ dialect.delimiter
  quote_ne_lineFeed : dialect.quote ≠ dialect.lineFeed
  quote_ne_carriageReturn : dialect.quote ≠ dialect.carriageReturn
  lineFeed_ne_delimiter : dialect.lineFeed ≠ dialect.delimiter

def doubleQuotes (dialect : Dialect α) (field : List α) : List α :=
  field.flatMap fun a => if a = dialect.quote then [a, a] else [a]

def quoteField (dialect : Dialect α) (field : List α) : List α :=
  dialect.quote :: doubleQuotes dialect field ++ [dialect.quote]

def writeRecord (dialect : Dialect α) (fields : List (List α)) : List α :=
  [dialect.delimiter].intercalate (fields.map (quoteField dialect)) ++ [dialect.lineFeed]

def write (dialect : Dialect α) (records : List (List (List α))) : List α :=
  records.flatMap (writeRecord dialect)

theorem Dialect.isEnd_lineFeed (dialect : Dialect α) : dialect.isEnd dialect.lineFeed = true := by
  simp [Dialect.isEnd]

/-! ### One symbol -/

variable {dialect : Dialect α} {reading : Reading α}

theorem Reading.run_of_step {a : α} {next : Reading α}
    (h : reading.step dialect a = (none, next)) (rest : List α) :
    reading.run dialect (a :: rest) = next.run dialect rest := by
  rw [Reading.run, h]
  rfl

theorem Reading.run_of_end {a : α} {record : Record α} {next : Reading α}
    (h : reading.step dialect a = (some record, next)) (rest : List α) :
    reading.run dialect (a :: rest) = record :: next.run dialect rest := by
  rw [Reading.run, h]
  rfl

/-- Where reading stands, the counts of symbols and lines apart: the mode, the finished fields of
the record, and what has been read of the current one. -/
structure Stands (reading : Reading α) (mode : Mode) (fields : List (List α)) (field : List α) :
    Prop where
  mode : reading.mode = mode
  fields : reading.fields = fields.reverse
  field : reading.field = field.reverse

variable {fields : List (List α)} {field : List α}

theorem Stands.opening (hd : dialect.Distinct) {mode : Mode}
    (hmode : mode = .recordStart ∨ mode = .fieldStart) (h : Stands reading mode fields field) :
    ∃ next, Stands next .quoted fields field ∧
      ∀ rest, reading.run dialect (dialect.quote :: rest) = next.run dialect rest := by
  refine ⟨{ reading.count dialect dialect.quote with mode := .quoted }, ⟨rfl, h.fields, h.field⟩,
    Reading.run_of_step ?_⟩
  have hend : dialect.isEnd dialect.quote = false := by
    simp [Dialect.isEnd, hd.quote_ne_lineFeed, hd.quote_ne_carriageReturn]
  rcases hmode with rfl | rfl
  · simp [Reading.step, h.mode, hend]
  · simp [Reading.step, h.mode]

variable (dialect) in
/-- **What is between quotes is taken as it is**, up to the closing quote. -/
theorem Stands.quoted (text : List α) (h : Stands reading .quoted fields field) :
    ∃ next, Stands next .quote fields (field ++ text) ∧
      ∀ rest, reading.run dialect
        (doubleQuotes dialect text ++ dialect.quote :: rest) = next.run dialect rest := by
  induction text generalizing reading field with
  | nil =>
    refine ⟨{ reading.count dialect dialect.quote with mode := .quote },
      ⟨rfl, h.fields, by rw [List.append_nil]; exact h.field⟩, Reading.run_of_step ?_⟩
    simp [Reading.step, h.mode]
  | cons a text ih =>
    have hfield : a :: reading.field = (field ++ [a]).reverse := by simp [h.field]
    by_cases ha : a = dialect.quote
    · -- the first of two quotes might be the closing one, the second one tells that it is not
      let first := { reading.count dialect dialect.quote with mode := Mode.quote }
      have hsecond : Stands ((first.count dialect a).extend .quoted a) .quoted fields
          (field ++ [a]) := ⟨rfl, h.fields, hfield⟩
      obtain ⟨next, hnext, hrun⟩ := ih hsecond
      refine ⟨next, by simpa using hnext, fun rest => ?_⟩
      have hdouble : doubleQuotes dialect (a :: text) = a :: a :: doubleQuotes dialect text := by
        rw [doubleQuotes, List.flatMap_cons, if_pos ha]
        rfl
      have hopen : reading.step dialect a = (none, first) := by
        simp [Reading.step, h.mode, first, ha]
      have hclose : first.step dialect a = (none, (first.count dialect a).extend .quoted a) := by
        simp [Reading.step, first, ha]
      rw [hdouble, List.cons_append, List.cons_append, Reading.run_of_step hopen,
        Reading.run_of_step hclose]
      exact hrun rest
    · have hone : Stands ((reading.count dialect a).extend .quoted a) .quoted fields
          (field ++ [a]) := ⟨rfl, h.fields, hfield⟩
      obtain ⟨next, hnext, hrun⟩ := ih hone
      refine ⟨next, by simpa using hnext, fun rest => ?_⟩
      have hdouble : doubleQuotes dialect (a :: text) = a :: doubleQuotes dialect text := by
        rw [doubleQuotes, List.flatMap_cons, if_neg ha]
        rfl
      have hstep : reading.step dialect a = (none, (reading.count dialect a).extend .quoted a) := by
        simp [Reading.step, h.mode, ha]
      rw [hdouble, List.cons_append, Reading.run_of_step hstep]
      exact hrun rest

theorem Stands.quoteField (hd : dialect.Distinct) {mode : Mode}
    (hmode : mode = .recordStart ∨ mode = .fieldStart) (h : Stands reading mode fields [])
    (text : List α) : ∃ next, Stands next .quote fields text ∧ ∀ rest,
      reading.run dialect (quoteField dialect text ++ rest) = next.run dialect rest := by
  obtain ⟨opened, hopened, hrun⟩ := h.opening hd hmode
  obtain ⟨next, hnext, hrun'⟩ := hopened.quoted dialect text
  refine ⟨next, hnext, fun rest => ?_⟩
  rw [Delimited.quoteField, List.cons_append, List.cons_append, hrun, List.append_assoc]
  exact hrun' rest

def Mode.IsOutside (mode : Mode) : Prop :=
  mode = .fieldStart ∨ mode = .plain ∨ mode = .quote

/-- Outside of quotes a symbol is a quote to reading only in front of a field or behind another. -/
theorem Stands.step_outside {mode : Mode} (hmode : mode.IsOutside)
    (h : Stands reading mode fields field) {a : α} (ha : a = dialect.quote → mode = .plain) :
    reading.step dialect a = (reading.count dialect a).outside dialect a := by
  rcases hmode with rfl | rfl | rfl
  · have hquote : a ≠ dialect.quote := fun hquote => Mode.noConfusion (ha hquote)
    simp [Reading.step, h.mode, hquote]
  · simp [Reading.step, h.mode]
  · have hquote : a ≠ dialect.quote := fun hquote => Mode.noConfusion (ha hquote)
    simp [Reading.step, h.mode, hquote]

theorem Stands.delimiter (hd : dialect.Distinct) {mode : Mode} (hmode : mode.IsOutside)
    (h : Stands reading mode fields field) :
    ∃ next, Stands next .fieldStart (fields ++ [field]) [] ∧
      ∀ rest, reading.run dialect (dialect.delimiter :: rest) = next.run dialect rest := by
  refine ⟨(reading.count dialect dialect.delimiter).endField, ⟨rfl, ?_, rfl⟩,
    Reading.run_of_step ?_⟩
  · simp [Reading.endField, Reading.count, h.fields, h.field]
  · rw [h.step_outside hmode fun hquote => absurd hquote.symm hd.quote_ne_delimiter]
    simp [Reading.outside]

theorem Stands.lineEnd {mode : Mode} (hmode : mode.IsOutside)
    (h : Stands reading mode fields field) {a : α} (hend : dialect.isEnd a = true)
    (hquote : a ≠ dialect.quote) (hdelimiter : a ≠ dialect.delimiter) :
    ∃ record next, record.fields = fields ++ [field] ∧ Stands next .recordStart [] [] ∧
      ∀ rest, reading.run dialect (a :: rest) = record :: next.run dialect rest := by
  let counted := reading.count dialect a
  refine ⟨counted.record, counted.newRecord, ?_, ⟨rfl, rfl, rfl⟩, Reading.run_of_end ?_⟩
  · simp [counted, Reading.record, Reading.count, h.fields, h.field]
  · rw [h.step_outside hmode fun h => absurd h hquote]
    simp [counted, Reading.outside, hdelimiter, hend]

/-! ### Records -/

theorem Stands.writeRecord (hd : dialect.Distinct) (text : List α) (texts : List (List α))
    {mode : Mode} (hmode : mode = .recordStart ∨ mode = .fieldStart)
    (h : Stands reading mode fields []) :
    ∃ record next, record.fields = fields ++ text :: texts ∧ Stands next .recordStart [] [] ∧
      ∀ rest, reading.run dialect (writeRecord dialect (text :: texts) ++ rest) =
        record :: next.run dialect rest := by
  induction texts generalizing reading fields text mode with
  | nil =>
    obtain ⟨closed, hclosed, hrun⟩ := h.quoteField hd hmode text
    obtain ⟨record, next, hrecord, hnext, hrun'⟩ := hclosed.lineEnd (.inr (.inr rfl))
      dialect.isEnd_lineFeed (Ne.symm hd.quote_ne_lineFeed) hd.lineFeed_ne_delimiter
    refine ⟨record, next, hrecord, hnext, fun rest => ?_⟩
    rw [Delimited.writeRecord, List.map_singleton, List.intercalate_singleton, List.append_assoc,
      hrun]
    exact hrun' rest
  | cons text' texts ih =>
    obtain ⟨closed, hclosed, hrun⟩ := h.quoteField hd hmode text
    obtain ⟨started, hstarted, hrun'⟩ := hclosed.delimiter hd (.inr (.inr rfl))
    obtain ⟨record, next, hrecord, hnext, hrun''⟩ := ih text' (.inr rfl) hstarted
    refine ⟨record, next, by simpa using hrecord, hnext, fun rest => ?_⟩
    rw [← hrun'', ← hrun', ← hrun, Delimited.writeRecord, Delimited.writeRecord, List.map_cons,
      List.map_cons, List.intercalate_cons_cons]
    simp

theorem Stands.emptyLine (h : Stands reading .recordStart [] []) {a : α}
    (hend : dialect.isEnd a = true) :
    ∃ next, Stands next .recordStart [] [] ∧
      ∀ rest, reading.run dialect (a :: rest) = next.run dialect rest := by
  refine ⟨reading.count dialect a, ⟨h.mode, h.fields, h.field⟩, Reading.run_of_step ?_⟩
  simp [Reading.step, h.mode, hend]

theorem Stands.write (hd : dialect.Distinct) (records : List (List (List α)))
    (h : Stands reading .recordStart [] []) :
    (reading.run dialect (write dialect records)).map Record.fields =
      records.filter (!·.isEmpty) := by
  induction records generalizing reading with
  | nil => simp [Delimited.write, Reading.run, Reading.last, h.mode]
  | cons fields records ih =>
    rw [Delimited.write, List.flatMap_cons, ← Delimited.write]
    cases fields with
    | nil =>
      obtain ⟨next, hnext, hrun⟩ := h.emptyLine dialect.isEnd_lineFeed
      have hempty : Delimited.writeRecord dialect [] = [dialect.lineFeed] := rfl
      rw [hempty, List.singleton_append, hrun, ih hnext]
      rfl
    | cons text texts =>
      obtain ⟨record, next, hrecord, hnext, hrun⟩ := h.writeRecord hd text texts (.inl rfl)
      rw [hrun, List.map_cons, hrecord, ih hnext]
      rfl

/-- **What has been written is read back.** -/
theorem records_write (hd : dialect.Distinct) (skipped : Nat) (written : List (List (List α))) :
    (records dialect skipped (write dialect written)).map Record.fields =
      written.filter (!·.isEmpty) :=
  Stands.write hd written ⟨rfl, rfl, rfl⟩

end AdaptiveForm.Delimited
