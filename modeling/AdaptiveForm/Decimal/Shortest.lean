import AdaptiveForm.Decimal.Binary64

/-!
# The shortest decimal that reads back

Among the decimal numbers that round to a given magnitude, the ones with the fewest digits, and
among those the nearest, a tie going to the even digit. The numbers that round to `m` fill the
interval half way to its two neighbours, ends included exactly when the significand is even. For
each number of digits from 1 to 17 the two neighbours of the value on that decimal grid are tried,
in exact arithmetic on natural numbers.
-/

namespace AdaptiveForm.Decimal

/-- A decimal number `digits * 10 ^ exponent`. -/
structure Scientific where
  digits : Nat
  exponent : Int
  deriving DecidableEq, Repr

def powerRatio (e : Int) : Nat × Nat :=
  match e with
  | .ofNat n => (pow10 n, 1)
  | .negSucc n => (1, pow10 (n + 1))

/-- The exponent of the leading decimal digit of a positive magnitude. The value is scaled by
`10 ^ 330` to make it an integer of at least one digit. -/
def Magnitude.decade (m : Magnitude) : Int :=
  let scaled := m.units * pow10 330 / pow2 unitExponent
  (Nat.toDigits 10 scaled).length - 331

/-- Four times the ends of the interval of numbers that round to `m`, and whether they belong to it,
in units of the last place of `m`. The gap below a power of two is half as wide. -/
def Magnitude.interval (m : Magnitude) : Nat × Nat × Bool :=
  let low := if m.significand = pow2 52 ∧ 0 < m.scale then 4 * m.significand - 1
    else 4 * m.significand - 2
  (low, 4 * m.significand + 2, m.significand % 2 == 0)

/-- Whether `c * 10 ^ e` rounds to `m`. -/
def Magnitude.admits (m : Magnitude) (c : Nat) (e : Int) : Bool :=
  let (low, high, closed) := m.interval
  let (num, den) := powerRatio e
  let point := c * num * pow2 (unitExponent + 2)
  let below := low * pow2 m.scale * den
  let above := high * pow2 m.scale * den
  if closed then below ≤ point && point ≤ above else below < point && point < above

/-- The better of the grid point `c * 10 ^ e` below the value and the next one above, if one of them
rounds to `m`. -/
def Magnitude.nearestOn? (m : Magnitude) (c : Nat) (e : Int) : Option Scientific :=
  match m.admits c e, m.admits (c + 1) e with
  | false, false => none
  | true, false => some ⟨c, e⟩
  | false, true => some ⟨c + 1, e⟩
  | true, true =>
    let (num, den) := powerRatio e
    let twice := 2 * (m.units * den)
    let middle := (2 * c + 1) * num * pow2 unitExponent
    if twice < middle || (twice == middle && c % 2 == 0) then some ⟨c, e⟩ else some ⟨c + 1, e⟩

/-- The first hit on the grids of `count`, `count + 1`, … digits, `fuel` of them. -/
def Magnitude.searchFrom (m : Magnitude) (decade : Int) : Nat → Nat → Option Scientific
  | _, 0 => none
  | count, fuel + 1 =>
    let e := decade - count + 1
    let (num, den) := powerRatio e
    let c := m.units * den / (num * pow2 unitExponent)
    match m.nearestOn? c e with
    | some found => some found
    | none => m.searchFrom decade (count + 1) fuel

/-- Moves trailing zeros of the digits into the exponent; `fuel` bounds their number. -/
def Scientific.strip : Nat → Scientific → Scientific
  | 0, s => s
  | fuel + 1, s =>
    if s.digits ≠ 0 ∧ s.digits % 10 = 0 then strip fuel ⟨s.digits / 10, s.exponent + 1⟩ else s

/-- The shortest decimal that is read back as the magnitude; seventeen digits always suffice. -/
def Magnitude.shortest (m : Magnitude) : Scientific :=
  if m.isZero then ⟨0, 0⟩
  else Scientific.strip 17 ((m.searchFrom m.decade 1 17).getD ⟨0, 0⟩)

end AdaptiveForm.Decimal
