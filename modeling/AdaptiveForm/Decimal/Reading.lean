import AdaptiveForm.Decimal.Binary64

/-!
# Reading decimal numbers

A decimal number is read into binary64 in a fixed number of rounded steps: its leading digits are
taken into an integer of 64 bits, which is rounded, and then multiplied or divided by a power of
ten, itself rounded. The result may differ from the nearest value in its last place; what matters is
that every reader of the format agrees on it.
-/

namespace AdaptiveForm.Decimal

/-- The largest integer that the leading digits may make. -/
def maxSignificand : Nat := pow2 64 - 1

/-- Takes digits into `significand` as long as it stays within 64 bits, and returns it with the
digits that did not fit. -/
def takeDigits (significand : Nat) : List Nat → Nat × List Nat
  | [] => (significand, [])
  | d :: ds =>
    if 10 * significand + d ≤ maxSignificand then takeDigits (10 * significand + d) ds
    else (significand, d :: ds)

/-- The largest power of ten that one step multiplies or divides by. -/
def maxPower : Nat := 308

def powerOfTen (n : Nat) : Magnitude :=
  (Magnitude.ofQuotient? (pow10 n) 1).getD Magnitude.zero

/-- Divides by `10 ^ n`, the largest power at a time. -/
def scaleDown (m : Magnitude) (n : Nat) : Magnitude :=
  if n ≤ maxPower then (m.div? (powerOfTen n)).getD Magnitude.zero
  else if m.isZero then m
  else scaleDown ((m.div? (powerOfTen maxPower)).getD Magnitude.zero) (n - maxPower)
termination_by n
decreasing_by simp [maxPower] at *; omega

def scaleUp? (m : Magnitude) (n : Nat) : Option Magnitude :=
  if n ≤ maxPower then m.mul? (powerOfTen n) else if m.isZero then some m else none

/-- The magnitude that `significand * 10 ^ exponent` is read as, or nothing when it is too large. -/
def ofScientific? (significand : Nat) (exponent : Int) : Option Magnitude :=
  match Magnitude.ofQuotient? significand 1 with
  | none => none
  | some m =>
    match exponent with
    | .ofNat n => scaleUp? m n
    | .negSucc n => some (scaleDown m (n + 1))

end AdaptiveForm.Decimal
