import AdaptiveForm.Json.Error
import AdaptiveForm.Json.Number

/-!
# Numerals

A numeral is split into its sign and its three groups of digits, and then given its value. Without
fraction and exponent it is an integer if 64 bits, signed or not, hold it; otherwise its value is a
floating point number. A minus sign before zero makes a floating point zero as well.
-/

namespace AdaptiveForm.Json

open AdaptiveForm.Decimal

def isDigitByte (b : UInt8) : Bool :=
  48 ≤ b && b ≤ 57

def digitValue (b : UInt8) : Nat :=
  b.toNat - 48

def digitRun (bytes : List UInt8) : List Nat :=
  (bytes.takeWhile isDigitByte).map digitValue

/-- An exponent: its sign and its digits, the first of which is the `first`-th byte of the text. -/
structure Exponent where
  negative : Bool
  digits : List Nat
  first : Nat

/-- A numeral: the digits before the point, those after it, and the exponent. -/
structure Numeral where
  negative : Bool
  whole : List Nat
  fraction : Option (List Nat)
  exponent : Option Exponent

/-- Reads the digits before the point. They do not begin with a superfluous zero. -/
def readWhole (start : Nat) (bytes : List UInt8) : Except Error (List Nat) :=
  match bytes with
  | [] => .error ⟨.endInValue, start⟩
  | b :: rest =>
    if !isDigitByte b then .error ⟨.invalidNumber, start + 1⟩
    else if b = 48 && rest.head?.any isDigitByte then .error ⟨.invalidNumber, start + 2⟩
    else .ok (digitRun bytes)

/-- Reads a point and the digits after it, of which there is at least one. -/
def readFraction (start : Nat) (bytes : List UInt8) : Except Error (Option (List Nat)) :=
  match bytes with
  | [] => .ok none
  | b :: rest =>
    if b ≠ 46 then .ok none
    else match digitRun rest, rest with
      | [], [] => .error ⟨.endInValue, start + 1⟩
      | [], _ => .error ⟨.invalidNumber, start + 2⟩
      | digits, _ => .ok (some digits)

def readExponentDigits (negative : Bool) (start : Nat) (bytes : List UInt8) :
    Except Error (Option Exponent) :=
  match digitRun bytes, bytes with
  | [], [] => .error ⟨.endInValue, start⟩
  | [], _ => .error ⟨.invalidNumber, start + 1⟩
  | digits, _ => .ok (some ⟨negative, digits, start⟩)

/-- Reads an exponent: `e` or `E`, an optional sign and digits. -/
def readExponent (start : Nat) (bytes : List UInt8) : Except Error (Option Exponent) :=
  match bytes with
  | [] => .ok none
  | b :: rest =>
    if b ≠ 101 && b ≠ 69 then .ok none
    else match rest with
      | 43 :: digits => readExponentDigits false (start + 2) digits
      | 45 :: digits => readExponentDigits true (start + 2) digits
      | digits => readExponentDigits false (start + 1) digits

def fractionWidth : Option (List Nat) → Nat
  | none => 0
  | some digits => digits.length + 1

/-- Reads the numeral at the head of `bytes`, the first of which is the `start`-th of the text, and
returns it with its width. -/
def Numeral.read (start : Nat) (bytes : List UInt8) : Except Error (Numeral × Nat) := do
  let negative := bytes.head? == some 45
  let signWidth := if negative then 1 else 0
  let whole ← readWhole (start + signWidth) (bytes.drop signWidth)
  let wholeEnd := signWidth + whole.length
  let fraction ← readFraction (start + wholeEnd) (bytes.drop wholeEnd)
  let fractionEnd := wholeEnd + fractionWidth fraction
  let exponent ← readExponent (start + fractionEnd) (bytes.drop fractionEnd)
  let width := match exponent with
    | none => fractionEnd
    | some e => e.first - start + e.digits.length
  return (⟨negative, whole, fraction, exponent⟩, width)

def maxExponent : Nat := 2147483647

/-- The value of an exponent's digits, or the number of digits up to the one with which it becomes
too large to be counted. -/
def exponentValue (value count : Nat) : List Nat → Except Nat Nat
  | [] => .ok value
  | d :: ds =>
    if 10 * value + d ≤ maxExponent then exponentValue (10 * value + d) (count + 1) ds
    else .error (count + 1)

/-- A floating point number with the given significand and power of ten; `stop` is where the numeral
ends. -/
def floatOf (negative : Bool) (significand : Nat) (exponent : Int) (stop : Nat) :
    Except Error Number :=
  match ofScientific? significand exponent with
  | some magnitude => .ok (.float negative magnitude)
  | none => .error ⟨.numberOutOfRange, stop⟩

/-- The largest integer whose negative is an integer of 64 bits. -/
def maxNegated : Nat := 9223372036854775808

def integerOf (negative : Bool) (significand : Nat) (stop : Nat) : Except Error Number :=
  if negative then
    if significand = 0 ∨ maxNegated < significand then floatOf true significand 0 stop
    else .ok (.integer (-(significand : Int)))
  else .ok (.integer significand)

/-- The value of a numeral that ends at the byte `stop`. Digits of the fraction that do not fit in
64 bits are dropped; digits before the point that do not fit count as powers of ten. -/
def Numeral.value (numeral : Numeral) (stop : Nat) : Except Error Number :=
  let (whole, extra) := takeDigits 0 numeral.whole
  match numeral.fraction, numeral.exponent, extra with
  | none, none, [] => integerOf numeral.negative whole stop
  | fraction, exponent, _ =>
    let digits := fraction.getD []
    let (significand, dropped) := takeDigits whole digits
    let shift : Int := (extra.length : Int) - ((digits.length - dropped.length : Nat) : Int)
    match exponent with
    | none => floatOf numeral.negative significand shift stop
    | some e =>
      match exponentValue 0 0 e.digits with
      | .ok n =>
        floatOf numeral.negative significand (if e.negative then shift - n else shift + n) stop
      | .error count =>
        if significand ≠ 0 && !e.negative then .error ⟨.numberOutOfRange, e.first + count⟩
        else .ok (.float numeral.negative .zero)

end AdaptiveForm.Json
