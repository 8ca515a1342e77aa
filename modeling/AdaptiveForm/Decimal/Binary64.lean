/-!
# Magnitudes in binary64

The finite non-negative values of the 64-bit binary floating point format, kept as a significand
below `2 ^ 53` and a scale: the value is `significand * 2 ^ scale / 2 ^ 1074`. The representation is
unique, since a significand below `2 ^ 52` has scale 0. Rounding a quotient of natural numbers to
the nearest such value, a half going to the even neighbour, gives multiplication and division.
-/

namespace AdaptiveForm.Decimal

def pow2 (n : Nat) : Nat := Nat.pow 2 n

def pow10 (n : Nat) : Nat := Nat.pow 10 n

/-- The exponent of the unit in which magnitudes are counted: `2 ^ (-1074)`. -/
def unitExponent : Nat := 1074

def maxScale : Nat := 2045

/-- A finite value that is not negative, `significand * 2 ^ scale / 2 ^ 1074`. -/
structure Magnitude where
  significand : Nat
  scale : Nat
  significand_lt : significand < pow2 53 := by decide
  scale_le : scale ≤ maxScale := by decide
  unique : pow2 52 ≤ significand ∨ scale = 0 := by decide
  deriving DecidableEq, Repr

def Magnitude.zero : Magnitude where
  significand := 0
  scale := 0

instance : Inhabited Magnitude := ⟨Magnitude.zero⟩

/-- The quotient rounded to the nearest integer, a half to the even neighbour. -/
def roundDiv (num den : Nat) : Nat :=
  let quotient := num / den
  let twice := 2 * (num % den)
  if den < twice || (twice == den && quotient % 2 == 1) then quotient + 1 else quotient

/-- The magnitude with the given parts, unless they are out of range. A significand of `2 ^ 53`, to
which rounding may lead, is the least one of the next scale. -/
def Magnitude.ofParts? (significand scale : Nat) : Option Magnitude :=
  if significand = pow2 53 then
    if h : scale + 1 ≤ maxScale then
      some
        { significand := pow2 52
          scale := scale + 1
          scale_le := h
          unique := .inl (Nat.le_refl _) }
    else none
  else
    if h : significand < pow2 53 ∧ scale ≤ maxScale ∧ (pow2 52 ≤ significand ∨ scale = 0) then
      some ⟨significand, scale, h.1, h.2.1, h.2.2⟩
    else none

/-- The number of binary digits that a count of units has beyond the 53 that a significand holds. -/
def excessBits (units : Nat) : Nat :=
  if units < pow2 53 then 0 else Nat.log2 units - 52

/-- The quotient rounded to the nearest magnitude, or nothing when it is too large for any. -/
def Magnitude.ofQuotient? (num den : Nat) : Option Magnitude :=
  let units := num * pow2 unitExponent
  let scale := excessBits (units / den)
  Magnitude.ofParts? (roundDiv units (den * pow2 scale)) scale

def Magnitude.units (m : Magnitude) : Nat :=
  m.significand * pow2 m.scale

def Magnitude.isZero (m : Magnitude) : Bool :=
  m.significand == 0

def Magnitude.mul? (a b : Magnitude) : Option Magnitude :=
  Magnitude.ofQuotient? (a.units * b.units) (pow2 (2 * unitExponent))

def Magnitude.div? (a b : Magnitude) : Option Magnitude :=
  Magnitude.ofQuotient? a.units b.units

end AdaptiveForm.Decimal
