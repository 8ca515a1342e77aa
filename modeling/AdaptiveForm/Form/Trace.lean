import AdaptiveForm.Form.Tree
import AdaptiveForm.Rule.Compile

/-!
# What the rows of the sheet became

The first row of a sheet is its header, so rows are numbered from 2, and only rows that become
something take a number. Formulas refer to rows by these numbers; the trace tells what each of them
became, and so by which path a rule refers to it.
-/

namespace AdaptiveForm

inductive Built where
  | field (id : Nat)
  | property (name : String)
  deriving DecidableEq, Repr

/-- The rows and what they became, by ascending row number. -/
structure Trace where
  rows : List (Nat × Built)

namespace Trace

/-- The number of the first row below the header. -/
def firstRow : Nat := 2

def empty : Trace := ⟨[]⟩

/-- Puts an entry in its place among rows in ascending order, replacing one of the same number. -/
def insertRow (row : Nat) (built : Built) : List (Nat × Built) → List (Nat × Built)
  | [] => [(row, built)]
  | (r, b) :: rest =>
    if row < r then (row, built) :: (r, b) :: rest
    else if row = r then (row, built) :: rest
    else (r, b) :: insertRow row built rest

def record (trace : Trace) (row : Nat) (built : Built) : Trace :=
  ⟨insertRow row built trace.rows⟩

def get? (trace : Trace) (row : Nat) : Option Built :=
  trace.rows.lookup row

def size (trace : Trace) : Nat :=
  trace.rows.length

end Trace

def formPath (names : List String) : String :=
  "$form." ++ String.intercalate "." names

def propertyPath (name : String) : String :=
  "$properties." ++ name

/-- The path by which rules refer to what a row became. A field without a name has none. -/
def Trace.paths (trace : Trace) (tree : Tree) : Rule.RowPaths := fun row =>
  match trace.get? row with
  | none => none
  | some (.property name) => some (propertyPath name)
  | some (.field id) =>
    match tree.path id with
    | [] => none
    | names => some (formPath names)

end AdaptiveForm
