import AdaptiveForm.Decimal.Reading
import AdaptiveForm.Decimal.Shortest

/-!
# Numbers of JSON documents

A number is an integer of 64 bits, signed or not, or a floating point value; which of the two it is
depends on how it is written, and is kept. Floating point values are written with the fewest digits
that read back, and never look like an integer.
-/

namespace AdaptiveForm.Json

open AdaptiveForm.Decimal

/-- A number: an integer, or a finite floating point value with its sign. -/
inductive Number where
  | integer (value : Int)
  | float (negative : Bool) (magnitude : Magnitude)
  deriving DecidableEq, Repr

def Number.isZero : Number → Bool
  | .integer value => value == 0
  | .float _ magnitude => magnitude.isZero

/-- How floating point values are written: positionally when the exponent of the leading digit lies
between the two bounds, otherwise with an exponent that shows its sign. -/
structure FloatFormat where
  minPositional : Int
  maxPositional : Int

def documentFloats : FloatFormat := ⟨-5, 15⟩

def zeros (n : Nat) : String :=
  String.ofList (List.replicate n '0')

/-- A decimal in positional notation, with `.0` when it has no fraction. -/
def positional (s : Scientific) : String :=
  let digits := toString s.digits
  match s.exponent with
  | .ofNat n => digits ++ zeros n ++ ".0"
  | .negSucc n =>
    let places := n + 1
    if places < digits.length then
      let whole := digits.length - places
      String.ofList (digits.toList.take whole) ++ "." ++ String.ofList (digits.toList.drop whole)
    else "0." ++ zeros (places - digits.length) ++ digits

/-- A decimal as a leading digit, a fraction if there are more digits, and an exponent. -/
def exponential (s : Scientific) : String :=
  let digits := (toString s.digits).toList
  let exponent := s.exponent + (digits.length - 1 : Nat)
  let mantissa := match digits with
    | [] => ""
    | [d] => d.toString
    | d :: ds => d.toString ++ "." ++ String.ofList ds
  let mark := if exponent < 0 then "e-" else "e+"
  mantissa ++ mark ++ toString exponent.natAbs

def FloatFormat.write (format : FloatFormat) (magnitude : Magnitude) : String :=
  let s := magnitude.shortest
  let leading := s.exponent + ((toString s.digits).length - 1 : Nat)
  if format.minPositional ≤ leading ∧ leading ≤ format.maxPositional then positional s
  else exponential s

def signed (negative : Bool) (text : String) : String :=
  if negative then "-" ++ text else text

def Number.text : Number → String
  | .integer value => signed (value < 0) (toString value.natAbs)
  | .float negative magnitude => signed negative (documentFloats.write magnitude)

/-- The text of a number in a message about its type: always positional. -/
def Number.plainText : Number → String
  | .integer value => signed (value < 0) (toString value.natAbs)
  | .float negative magnitude => signed negative (positional magnitude.shortest)

end AdaptiveForm.Json
