import AdaptiveForm.Proofs.Field.Attribute
import AdaptiveForm.Proofs.Sheet.Quoting
import AdaptiveForm.Sheet.Table
import Mathlib.Data.List.TakeWhile

/-!
# Tables that are written and read

A table is written with all its headers and cells in quotes.  Reading gives it back, whatever the
cells hold, less what reading leaves out of any table: the white space around headers and cells,
cells beyond the columns, and rows without a cell that is not blank (`parse_write`).
-/

namespace AdaptiveForm.Table

open Delimited

def write (delimiter : Char) (records : List (List String)) : String :=
  String.ofList
    (Delimited.write (charDialect delimiter) (records.map fun cells => cells.map String.toList))

/-- A row as it is read: the trimmed cells under the trimmed headers, and an empty text under a
header for which there is no cell. -/
def trimmedRow (headers cells : List String) : Entries :=
  headers.mapIdx fun i header => (Text.trim header, .string ((cells[i]?.map Text.trim).getD ""))

def isFilled (cells : List String) : Bool :=
  cells.any fun cell => !(Text.trim cell).isEmpty

/-! ### Rows -/

theorem foldl_insert (entries earlier : Entries) (h : (earlier ++ entries).keys.Nodup) :
    entries.foldl (fun merged entry => merged.insert entry.1 entry.2) earlier =
      earlier ++ entries := by
  induction entries generalizing earlier with
  | nil => exact (List.append_nil earlier).symm
  | cons entry entries ih =>
    have hnew : entry.1 ∉ Entries.keys earlier := by
      intro hmem
      rw [Entries.keys, List.map_append, List.map_cons, List.nodup_append] at h
      exact h.2.2 _ hmem _ List.mem_cons_self rfl
    have happend : earlier ++ entry :: entries = (earlier ++ [entry]) ++ entries := by simp
    rw [List.foldl_cons, Entries.insert_of_notMem _ _ hnew, happend]
    rw [happend] at h
    exact ih _ h

theorem zip_eq_trimmedRow (headers cells : List String) :
    (((headers.map Text.trim).zip
        (cells.map Text.trim ++ List.replicate (headers.map Text.trim).length "")).map
      fun pair => (pair.1, Json.string pair.2)) = trimmedRow headers cells := by
  apply List.ext_getElem
  · simp [trimmedRow]
  · intro i hi _
    have hlt : i < headers.length := by simp at hi; omega
    by_cases hcell : i < cells.length
    · simp [trimmedRow, List.getElem_append_left, hcell]
    · simp only [trimmedRow, List.getElem_map, List.getElem_zip, List.getElem_mapIdx,
        List.getElem?_eq_none (Nat.le_of_not_lt hcell), Option.map_none, Option.getD_none]
      rw [List.getElem_append_right (by simpa using hcell), List.getElem_replicate]

theorem row_eq_trimmedRow {headers : List String}
    (hnamed : ∀ header ∈ headers, Text.trim header ≠ "")
    (hdistinct : (headers.map Text.trim).Nodup) (cells : List String) :
    row (headers.map Text.trim) (cells.map Text.trim) = trimmedRow headers cells := by
  have hkeys : (trimmedRow headers cells).keys = headers.map Text.trim := by
    apply List.ext_getElem
    · simp [trimmedRow, Entries.keys]
    · intro i _ _
      simp [trimmedRow, Entries.keys]
  have hall : ∀ pair ∈ (headers.map Text.trim).zip
      (cells.map Text.trim ++ List.replicate (headers.map Text.trim).length ""),
      (!pair.1.isEmpty) = true := by
    rintro ⟨name, cell⟩ hmem
    obtain ⟨header, hheader, rfl⟩ := List.mem_map.mp (List.of_mem_zip hmem).1
    simpa using hnamed header hheader
  have hnodup : Entries.keys ([] ++ trimmedRow headers cells) |>.Nodup := by
    rw [List.nil_append, hkeys]
    exact hdistinct
  rw [← List.nil_append (trimmedRow headers cells), ← foldl_insert _ _ hnodup,
    ← zip_eq_trimmedRow, List.foldl_map, row, List.filter_eq_self.mpr hall]

theorem rowsOf_trimmed {headers : List String}
    (hnamed : ∀ header ∈ headers, Text.trim header ≠ "")
    (hdistinct : (headers.map Text.trim).Nodup) (records : List (List String)) :
    rowsOf (headers.map Text.trim) (records.map fun cells => cells.map Text.trim) =
      (records.filter isFilled).map fun cells => .object (trimmedRow headers cells) := by
  rw [rowsOf, List.filter_map, List.map_map]
  have hfilled : ((fun cells => cells.any fun cell => !cell.isEmpty) ∘
      fun cells : List String => cells.map Text.trim) = isFilled := by
    funext cells
    simp [isFilled, Function.comp_def]
  rw [hfilled]
  apply List.map_congr_left
  intro cells _
  rw [Function.comp_apply, row_eq_trimmedRow hnamed hdistinct]

/-! ### Headers -/

theorem duplicate?_eq_none {headers : List String} (earlier : List String)
    (h : (earlier ++ headers).Nodup) : duplicate? earlier headers = none := by
  induction headers generalizing earlier with
  | nil => rfl
  | cons header headers ih =>
    have hnew : header ∉ earlier := by
      intro hmem
      exact (List.nodup_append.mp h).2.2 _ hmem _ List.mem_cons_self rfl
    have hperm : (header :: earlier ++ headers).Perm (earlier ++ header :: headers) :=
      List.perm_middle.symm
    rw [duplicate?, if_neg (by simp [hnew]), ih _ (hperm.nodup_iff.mpr h)]

theorem checkHeaders_eq_ok {headers : List String} (hne : headers ≠ [])
    (hnamed : ∀ header ∈ headers, header ≠ "") (hdistinct : headers.Nodup) :
    checkHeaders headers = .ok () := by
  have hall : headers.all String.isEmpty = false := by
    obtain ⟨header, hheader⟩ := List.exists_mem_of_ne_nil headers hne
    rw [List.all_eq_false]
    exact ⟨header, hheader, by simpa using hnamed header hheader⟩
  rw [checkHeaders, hall, if_neg Bool.false_ne_true, duplicate?_eq_none [] hdistinct]

/-! ### The text -/

theorem distinct_charDialect {delimiter : Char} (h : delimiter ∈ delimiters) :
    (charDialect delimiter).Distinct := by
  have hall : ∀ delimiter ∈ delimiters, '"' ≠ delimiter ∧ '\n' ≠ delimiter := by simp [delimiters]
  obtain ⟨hquote, hline⟩ := hall delimiter h
  have hend : '"' ≠ '\n' ∧ '"' ≠ '\r' := by decide
  exact ⟨hquote, hend.1, hend.2, hline⟩

theorem charCells_write {delimiter : Char} (h : delimiter ∈ delimiters)
    (table : List (List String)) :
    (records (charDialect delimiter) 0 (write delimiter table).toList).map charCells =
      (table.filter (!·.isEmpty)).map fun cells => cells.map Text.trim := by
  have hread := records_write (distinct_charDialect h) 0
    (table.map fun cells => cells.map String.toList)
  have hcells : charCells = (fun fields => fields.map fun field =>
      Text.trim (String.ofList field)) ∘ Record.fields := rfl
  rw [write, String.toList_ofList, hcells, ← List.map_map, hread, List.filter_map, List.map_map]
  congr 1
  · funext cells
    simp [Function.comp_def]
  · apply List.filter_congr
    simp

theorem trimChars_quote_ne (cs : List Char) : Text.trimChars ('"' :: cs) ≠ [] := by
  intro h
  have hquote : Text.isSpace '"' = false := by decide
  rw [Text.trimChars, List.reverse_eq_nil_iff, List.dropWhile_eq_nil_iff] at h
  have hspace := h '"' (by simp [hquote])
  rw [hquote] at hspace
  cases hspace

theorem exists_write_eq (delimiter : Char) {headers : List String} (hne : headers ≠ [])
    (rows : List (List String)) :
    ∃ cs, (write delimiter (headers :: rows)).toList = '"' :: cs := by
  obtain ⟨header, headers, rfl⟩ := List.exists_cons_of_ne_nil hne
  rw [write, String.toList_ofList, Delimited.write, List.map_cons, List.flatMap_cons, writeRecord,
    List.map_cons, List.map_cons]
  cases headers with
  | nil => exact ⟨_, rfl⟩
  | cons next headers =>
    rw [List.map_cons, List.map_cons, List.intercalate_cons_cons]
    exact ⟨_, rfl⟩

/-- **Reading a table undoes writing it.** Whatever the cells hold, a table of headers that are not
blank and differ when trimmed is read back with the trimmed headers, and with one row for each
written one that has a cell which is not blank, in their order: under each header stands the trimmed
cell of its place, or an empty text where the row is too short, and further cells are left out. -/
theorem parse_write {delimiter : Char} (hdelimiter : delimiter ∈ delimiters)
    {headers : List String} (hne : headers ≠ [])
    (hnamed : ∀ header ∈ headers, Text.trim header ≠ "")
    (hdistinct : (headers.map Text.trim).Nodup) (rows : List (List String)) :
    parse (write delimiter (headers :: rows)) delimiter =
      .ok ⟨headers.map Text.trim,
        (rows.filter isFilled).map fun cells => .object (trimmedRow headers cells)⟩ := by
  obtain ⟨cs, hcs⟩ := exists_write_eq delimiter hne rows
  have hfilled : (Text.trim (write delimiter (headers :: rows))).isEmpty = false := by
    rw [Text.trim, hcs]
    simpa using trimChars_quote_ne cs
  have hascii : ∀ delimiter ∈ delimiters, delimiter.toNat < 0x80 := by simp [delimiters]
  have hmark : Byte.dropMark ('"' :: cs) = '"' :: cs := rfl
  have hcells := charCells_write hdelimiter (headers :: rows)
  rw [hcs, List.filter_cons_of_pos (by simpa using hne), List.map_cons] at hcells
  have hheaders : checkHeaders (headers.map Text.trim) = .ok () :=
    checkHeaders_eq_ok (by simpa using hne) (by simpa using hnamed) hdistinct
  have hrows : (rows.filter (!·.isEmpty)).filter isFilled = rows.filter isFilled := by
    rw [List.filter_filter]
    apply List.filter_congr
    intro cells _
    cases cells <;> simp [isFilled]
  rw [parse, hfilled, if_neg Bool.false_ne_true, if_pos (hascii delimiter hdelimiter), ofChars, hcs,
    hmark, hcells, ofCells, hheaders]
  dsimp only
  rw [rowsOf_trimmed hnamed hdistinct, hrows]

def quotedHeaders : List String := [" name ", "say \"hi\"", "\u00a0rules.value"]

def quotedRows : List (List String) := [
  ["a;b", "\"", " =\"x\n;y\"\r\n"],
  [" ", "\t"],
  [],
  ["c"],
  ["", "d ", "", "beyond"]]

theorem parse_write_quoted :
    ';' ∈ delimiters ∧ quotedHeaders ≠ [] ∧
    (∀ header ∈ quotedHeaders, Text.trim header ≠ "") ∧
    (quotedHeaders.map Text.trim).Nodup ∧
    parse (write ';' (quotedHeaders :: quotedRows)) ';' =
      .ok ⟨["name", "say \"hi\"", "rules.value"], [
        .object [("name", .string "a;b"), ("say \"hi\"", .string "\""),
          ("rules.value", .string "=\"x\n;y\"")],
        .object [("name", .string "c"), ("say \"hi\"", .string ""), ("rules.value", .string "")],
        .object [("name", .string ""), ("say \"hi\"", .string "d"),
          ("rules.value", .string "")]]⟩ := by
  have hdelimiter : ';' ∈ delimiters := by decide
  have hne : quotedHeaders ≠ [] := List.cons_ne_nil _ _
  have hnamed : ∀ header ∈ quotedHeaders, Text.trim header ≠ "" := by decide
  have hdistinct : (quotedHeaders.map Text.trim).Nodup := by decide
  exact ⟨hdelimiter, hne, hnamed, hdistinct, parse_write hdelimiter hne hnamed hdistinct quotedRows⟩

end AdaptiveForm.Table
