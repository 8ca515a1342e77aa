import AdaptiveForm.Proofs.Rule.Demand
import Mathlib.Logic.Relation

/-!
# Ranges mean their cells

A range among the arguments of an aggregate is written as the paths of its rows, and so are cells of
these rows that are arguments themselves, in whatever columns they lie.  Which end of a range is
written first matters nowhere.  `RangeStep` is one such change, at any depth of a formula; the text
of the rule stays the same under any number of changes, forth and back (`ranges_mean_cells`).

One change may alter the column that a refusal names, and nothing else: results are compared up to
this (`SameOutcome`), and whatever is done with both of them afterwards keeps it.  Arguments are
written in three ways, as they are, as operands or as items, and each list is collected by the same
recursion (`collect`), so that what a change does to one argument is carried to the list in one
lemma.
-/

namespace AdaptiveForm.Rule

open AdaptiveForm.Formula (Expr Cell BinaryOp UnaryOp)

variable {paths : RowPaths}

/-! ### Changes -/

def Lowering.isAggregate : Lowering → Bool
  | .aggregate _ => true
  | _ => false

def aggregates : List String :=
  ["sum", "average", "min", "max", "count"]

theorem mem_aggregates {function : String} :
    function ∈ aggregates ↔ ∃ target, lowering? function = some (.aggregate target) := by
  constructor
  · intro h
    simp only [aggregates, List.mem_cons, List.not_mem_nil, or_false] at h
    obtain rfl | rfl | rfl | rfl | rfl := h <;> exact ⟨_, rfl⟩
  · rintro ⟨target, h⟩
    have hall : ∀ entry ∈ lowerings, entry.2.isAggregate = true → entry.1 ∈ aggregates := by
      decide
    exact hall _ (mem_lowerings h) rfl

/-- One change in a formula: the ends of a range are swapped, or a range that is an argument of an
aggregate is replaced by cells of its rows in ascending order. -/
inductive RangeStep : Expr → Expr → Prop
  | swap (first last : Cell) : RangeStep (.range first last) (.range last first)
  | spread {function : String} {first last : Cell} {cells : List Cell} (before after : List Expr) :
      function ∈ aggregates → cells.map Cell.row = rowsBetween first last →
      RangeStep (.call function (before ++ [.range first last] ++ after))
        (.call function (before ++ cells.map .cell ++ after))
  | arg (function : String) {arg arg' : Expr} (before after : List Expr) : RangeStep arg arg' →
      RangeStep (.call function (before ++ [arg] ++ after))
        (.call function (before ++ [arg'] ++ after))
  | group {inner inner' : Expr} : RangeStep inner inner' →
      RangeStep (.group inner) (.group inner')
  | percent {operand operand' : Expr} : RangeStep operand operand' →
      RangeStep (.percent operand) (.percent operand')
  | unary (op : UnaryOp) {operand operand' : Expr} : RangeStep operand operand' →
      RangeStep (.unary op operand) (.unary op operand')
  | left (op : BinaryOp) {left left' : Expr} (right : Expr) : RangeStep left left' →
      RangeStep (.binary op left right) (.binary op left' right)
  | right (op : BinaryOp) (left : Expr) {right right' : Expr} : RangeStep right right' →
      RangeStep (.binary op left right) (.binary op left right')

/-! ### Results up to a column -/

/-- Two results are the same, or both are refusals for one row without a path, which name a cell of
it in different columns. -/
inductive SameOutcome {α : Type} : Except CompileError α → Except CompileError α → Prop
  | same (x : Except CompileError α) : SameOutcome x x
  | missing (column column' : String) (row : Nat) :
      SameOutcome (.error (.unknownReference (Cell.text ⟨column, row⟩)))
        (.error (.unknownReference (Cell.text ⟨column', row⟩)))

theorem SameOutcome.bind {α β : Type} {x y : Except CompileError α}
    {f g : α → Except CompileError β} (h : SameOutcome x y) (hfg : ∀ a, SameOutcome (f a) (g a)) :
    SameOutcome (x >>= f) (y >>= g) := by
  cases h with
  | missing column column' row => exact .missing column column' row
  | same x =>
    cases x with
    | error e => exact .same _
    | ok a => exact hfg a

theorem SameOutcome.bind_right {α β : Type} {x y : Except CompileError α} (h : SameOutcome x y)
    (f : α → Except CompileError β) : SameOutcome (x >>= f) (y >>= f) :=
  h.bind fun _ => .same _

theorem SameOutcome.eq_ok_iff {α : Type} {x y : Except CompileError α} (h : SameOutcome x y)
    (a : α) : x = .ok a ↔ y = .ok a := by
  cases h with
  | same x => exact Iff.rfl
  | missing column column' row => exact ⟨nofun, nofun⟩

/-! ### The paths of cells -/

theorem sameOutcome_cellPath {cell cell' : Cell} (h : cell.row = cell'.row) :
    SameOutcome (cellPath paths cell) (cellPath paths cell') := by
  obtain ⟨column, row⟩ := cell
  obtain ⟨column', row'⟩ := cell'
  obtain rfl : row = row' := h
  simp only [cellPath]
  cases paths row with
  | none => exact .missing column column' row
  | some path => exact .same _

/-- Only the rows of cells decide about their paths. -/
theorem sameOutcome_mapM_cellPath {cells cells' : List Cell}
    (h : cells.map Cell.row = cells'.map Cell.row) :
    SameOutcome (cells.mapM (cellPath paths)) (cells'.mapM (cellPath paths)) := by
  induction cells generalizing cells' with
  | nil =>
    obtain rfl : cells' = [] := List.map_eq_nil_iff.mp h.symm
    exact .same _
  | cons cell cells ih =>
    obtain ⟨cell', cells', rfl, hrow, hrows⟩ := List.map_eq_cons_iff.mp h.symm
    rw [List.mapM_cons, List.mapM_cons]
    exact (sameOutcome_cellPath hrow.symm).bind fun _ => (ih hrows.symm).bind_right _

/-- The cells of a range in ascending order, in the column of the end that is written first. -/
def rangeCells (first last : Cell) : List Cell :=
  (rowsBetween first last).map (Cell.mk first.column)

theorem map_row_rangeCells (first last : Cell) :
    (rangeCells first last).map Cell.row = rowsBetween first last := by
  simp [rangeCells, Function.comp_def]

theorem rowsBetween_comm (first last : Cell) : rowsBetween first last = rowsBetween last first := by
  simp only [rowsBetween, min_comm, max_comm]

theorem pathsFrom_eq_mapM (column : String) (row count : Nat) :
    pathsFrom paths column row count =
      ((List.range' row count).map (Cell.mk column)).mapM (cellPath paths) := by
  induction count generalizing row with
  | zero => rfl
  | succ count ih =>
    rw [pathsFrom, List.range'_succ, List.map_cons, List.mapM_cons, ← ih, cellPath]
    cases paths row with
    | none => rfl
    | some path => cases pathsFrom paths column (row + 1) count <;> rfl

theorem rangePaths_eq_mapM (first last : Cell) :
    rangePaths paths first last = (rangeCells first last).mapM (cellPath paths) :=
  pathsFrom_eq_mapM _ _ _

theorem sameOutcome_rangePaths {first last : Cell} {cells : List Cell}
    (h : cells.map Cell.row = rowsBetween first last) :
    SameOutcome (rangePaths paths first last) (cells.mapM (cellPath paths)) := by
  rw [rangePaths_eq_mapM]
  exact sameOutcome_mapM_cellPath ((map_row_rangeCells first last).trans h.symm)

theorem sameOutcome_rangePaths_swap (first last : Cell) :
    SameOutcome (rangePaths paths first last) (rangePaths paths last first) := by
  rw [rangePaths_eq_mapM last first]
  exact sameOutcome_rangePaths ((map_row_rangeCells last first).trans (rowsBetween_comm last first))

/-! ### Lists of arguments -/

def collect (texts : Expr → Except CompileError (List String)) :
    List Expr → Except CompileError (List String)
  | [] => return []
  | arg :: args => do
    let first ← texts arg
    let rest ← collect texts args
    return first ++ rest

def argText (paths : RowPaths) (arg : Expr) : Except CompileError (List String) := do
  let text ← exprText paths arg
  return [text]

def operandText (paths : RowPaths) (arg : Expr) : Except CompileError (List String) := do
  let text ← exprText paths arg
  return [wrapOperand arg text]

/-- The items of an argument: of a range the paths of its rows, of anything else its text. -/
def argItems (paths : RowPaths) : Expr → Except CompileError (List String)
  | .range first last => rangePaths paths first last
  | arg => argText paths arg

variable {texts : Expr → Except CompileError (List String)}

theorem collect_singleton (arg : Expr) : collect texts [arg] = texts arg := by
  simp [collect]

theorem collect_append (args args' : List Expr) : collect texts (args ++ args') = (do
    let first ← collect texts args
    let rest ← collect texts args'
    return first ++ rest) := by
  induction args with
  | nil => simp [collect]
  | cons arg args ih =>
    simp only [List.cons_append, collect, ih, bind_assoc, pure_bind, List.append_assoc]

theorem argTexts_eq_collect (args : List Expr) :
    argTexts paths args = collect (argText paths) args := by
  induction args with
  | nil => rfl
  | cons arg args ih => simp [argTexts, collect, argText, ih]

theorem operandTexts_eq_collect (args : List Expr) :
    operandTexts paths args = collect (operandText paths) args := by
  induction args with
  | nil => rfl
  | cons arg args ih => simp [operandTexts, collect, operandText, ih]

theorem itemTexts_eq_collect (args : List Expr) :
    itemTexts paths args = collect (argItems paths) args := by
  induction args with
  | nil => rfl
  | cons arg args ih =>
    cases arg with
    | range first last => simp [itemTexts, collect, argItems, ih]
    | _ => simp [itemTexts, collect, argItems, argText, ih]

theorem collect_argItems_cells (cells : List Cell) :
    collect (argItems paths) (cells.map .cell) = cells.mapM (cellPath paths) := by
  induction cells with
  | nil => rfl
  | cons cell cells ih => simp [collect, argItems, argText, exprText, ih]

theorem sameOutcome_collect {args args' : List Expr} (before after : List Expr)
    (h : SameOutcome (collect texts args) (collect texts args')) :
    SameOutcome (collect texts (before ++ args ++ after))
      (collect texts (before ++ args' ++ after)) := by
  rw [collect_append, collect_append before, collect_append _ after, collect_append before args']
  exact ((SameOutcome.same _).bind fun _ => h.bind_right _).bind_right _

theorem sameOutcome_collect_arg {arg arg' : Expr} (before after : List Expr)
    (h : SameOutcome (texts arg) (texts arg')) :
    SameOutcome (collect texts (before ++ [arg] ++ after))
      (collect texts (before ++ [arg'] ++ after)) := by
  refine sameOutcome_collect before after ?_
  rwa [collect_singleton, collect_singleton]

/-! ### One change -/

theorem sameOutcome_call (function : String) {args args' : List Expr}
    (harg : SameOutcome (collect (argText paths) args) (collect (argText paths) args'))
    (hoperand : SameOutcome (collect (operandText paths) args) (collect (operandText paths) args'))
    (hitem : SameOutcome (collect (argItems paths) args) (collect (argItems paths) args')) :
    SameOutcome (exprText paths (.call function args)) (exprText paths (.call function args')) := by
  rw [← argTexts_eq_collect, ← argTexts_eq_collect] at harg
  rw [← operandTexts_eq_collect, ← operandTexts_eq_collect] at hoperand
  rw [← itemTexts_eq_collect, ← itemTexts_eq_collect] at hitem
  rw [exprText, exprText]
  cases lowering? function with
  | none => exact .same _
  | some lowering =>
    cases lowering with
    | aggregate target => exact hitem.bind_right _
    | direct target => exact harg.bind_right _
    | conditional => exact harg.bind_right _
    | join => exact hoperand.bind_right _

/-- Of the arguments of an aggregate only the items matter. -/
theorem sameOutcome_aggregate {function : String} (h : function ∈ aggregates)
    {args args' : List Expr}
    (hitem : SameOutcome (collect (argItems paths) args) (collect (argItems paths) args')) :
    SameOutcome (exprText paths (.call function args)) (exprText paths (.call function args')) := by
  obtain ⟨target, ht⟩ := mem_aggregates.mp h
  rw [← itemTexts_eq_collect, ← itemTexts_eq_collect] at hitem
  simp only [exprText, ht]
  exact hitem.bind_right _

theorem RangeStep.wrapOperand_eq {e e' : Expr} (h : RangeStep e e') :
    wrapOperand e = wrapOperand e' := by
  cases h <;> rfl

theorem RangeStep.sameOutcome_operandText {e e' : Expr} (h : RangeStep e e')
    (ih : SameOutcome (exprText paths e) (exprText paths e')) :
    SameOutcome (operandText paths e) (operandText paths e') := by
  rw [operandText, operandText, h.wrapOperand_eq]
  exact ih.bind_right _

theorem RangeStep.sameOutcome_argItems {e e' : Expr} (h : RangeStep e e')
    (ih : SameOutcome (exprText paths e) (exprText paths e')) :
    SameOutcome (argItems paths e) (argItems paths e') := by
  cases h with
  | swap first last => exact sameOutcome_rangePaths_swap first last
  | _ => exact ih.bind_right _

/-- **One change leaves the result as it is**, up to the column that a refusal names. -/
theorem RangeStep.sameOutcome {e e' : Expr} (h : RangeStep e e') (paths : RowPaths) :
    SameOutcome (exprText paths e) (exprText paths e') := by
  induction h with
  | swap first last => exact (sameOutcome_rangePaths_swap first last).bind_right _
  | spread before after hfunction hrows =>
    refine sameOutcome_aggregate hfunction (sameOutcome_collect before after ?_)
    rw [collect_singleton, collect_argItems_cells]
    exact sameOutcome_rangePaths hrows
  | arg function before after h ih =>
    -- operands and items are told by the shape of the argument, which a change keeps
    exact sameOutcome_call function (sameOutcome_collect_arg before after (ih.bind_right _))
      (sameOutcome_collect_arg before after (h.sameOutcome_operandText ih))
      (sameOutcome_collect_arg before after (h.sameOutcome_argItems ih))
  | group h ih => exact ih.bind_right _
  | percent h ih =>
    rw [exprText, exprText, h.wrapOperand_eq]
    exact ih.bind_right _
  | unary op h ih =>
    rw [exprText, exprText, h.wrapOperand_eq]
    exact ih.bind_right _
  | left op right h ih =>
    rw [exprText, exprText, h.wrapOperand_eq]
    exact ih.bind_right _
  | right op left h ih =>
    rw [exprText, exprText, h.wrapOperand_eq]
    exact (SameOutcome.same _).bind fun _ => ih.bind_right _

/-! ### Any number of changes -/

/-- **Ranges mean their cells.** Whatever rows have paths, a formula is written, and as the same
text, exactly if it is written after any number of changes: ranges anywhere in it with their ends
swapped, and ranges that are arguments of aggregates replaced by cells of their rows, or such cells
by a range. -/
theorem ranges_mean_cells {e e' : Expr} (h : Relation.EqvGen RangeStep e e') (paths : RowPaths)
    (text : String) : exprText paths e = .ok text ↔ exprText paths e' = .ok text := by
  induction h with
  | rel e e' h => exact (h.sameOutcome paths).eq_ok_iff text
  | refl e => exact Iff.rfl
  | symm e e' _ ih => exact ih.symm
  | trans e e' e'' _ _ ih ih' => exact ih.trans ih'

/-- The rule for a range that is written from its last row on, as an item of a sum and in a group:
it is that of the cells, and of the range from its first row on. -/
theorem ranges_mean_cells_total :
    let paths : RowPaths := fun row => if row = 2 then some "$form.price" else
      if row = 3 then some "$form.count" else if row = 4 then some "$form.rate" else none
    let formula : Expr := .binary .div
      (.call "sum" [.number "1", .range ⟨"c", 4⟩ ⟨"b", 2⟩, .cell ⟨"b", 3⟩])
      (.call "len" [.group (.range ⟨"b", 3⟩ ⟨"b", 2⟩)])
    let spelled : Expr := .binary .div
      (.call "sum" [.number "1", .cell ⟨"b", 2⟩, .cell ⟨"d", 3⟩, .cell ⟨"a", 4⟩, .cell ⟨"b", 3⟩])
      (.call "len" [.group (.range ⟨"b", 2⟩ ⟨"b", 3⟩)])
    Relation.EqvGen RangeStep formula spelled ∧ exprText paths formula =
      .ok ("sum([1, $form.price, $form.count, $form.rate, $form.count]) / " ++
        "length(([$form.price, $form.count]))") := by
  intro paths formula spelled
  have hsum : RangeStep (.call "sum" [.number "1", .range ⟨"c", 4⟩ ⟨"b", 2⟩, .cell ⟨"b", 3⟩])
      (.call "sum"
        [.number "1", .cell ⟨"b", 2⟩, .cell ⟨"d", 3⟩, .cell ⟨"a", 4⟩, .cell ⟨"b", 3⟩]) :=
    @RangeStep.spread _ _ _ [⟨"b", 2⟩, ⟨"d", 3⟩, ⟨"a", 4⟩] [.number "1"] [.cell ⟨"b", 3⟩]
      (by decide) (by decide)
  have hlen : RangeStep (.call "len" [.group (.range ⟨"b", 3⟩ ⟨"b", 2⟩)])
      (.call "len" [.group (.range ⟨"b", 2⟩ ⟨"b", 3⟩)]) :=
    .arg "len" [] [] (.group (.swap _ _))
  have h : Relation.EqvGen RangeStep formula spelled :=
    .trans _ _ _ (.rel _ _ (.left .div _ hsum)) (.rel _ _ (.right .div _ hlen))
  exact ⟨h, (ranges_mean_cells h paths _).mpr (by decide +kernel)⟩

end AdaptiveForm.Rule
