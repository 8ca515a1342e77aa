/-!
# Cell references

A cell is written as its column, one to three letters `a` to `z`, and its row, a number from 1 on
without leading zeros; a `$` before either part pins it for copying and means nothing here.
-/

namespace AdaptiveForm.Formula

/-- A cell of the sheet. Row 1 is the header. -/
structure Cell where
  column : String
  row : Nat
  deriving DecidableEq, Repr

/-- The row numbers a sheet can have lie below this bound. -/
def rowLimit : Nat := 4294967296

def Cell.text (cell : Cell) : String :=
  cell.column ++ toString cell.row

def dropPin : List Char → List Char
  | '$' :: cs => cs
  | cs => cs

def isColumnLetter (c : Char) : Bool :=
  'a' ≤ c && c ≤ 'z'

/-- The row that digits write, the first of which is not 0. -/
def rowOfDigits? (cs : List Char) : Option Nat :=
  match cs with
  | [] => none
  | c :: _ =>
    if c ≠ '0' && cs.all Char.isDigit then
      let row := cs.foldl (fun n d => 10 * n + (d.toNat - '0'.toNat)) 0
      if row < rowLimit then some row else none
    else none

def Cell.ofName? (name : String) : Option Cell :=
  let cs := dropPin name.toList
  let column := cs.takeWhile isColumnLetter
  if 1 ≤ column.length && column.length ≤ 3 then
    (rowOfDigits? (dropPin (cs.drop column.length))).map fun row => ⟨String.ofList column, row⟩
  else none

end AdaptiveForm.Formula
