import AdaptiveForm.Byte.Utf8

/-!
# UTF-16

Reading text as UTF-16 of either byte order. A surrogate without its partner, and what is left over
at the end, is replaced.
-/

namespace AdaptiveForm.Byte

inductive ByteOrder where
  | little
  | big
  deriving DecidableEq, Repr

def ByteOrder.unit (order : ByteOrder) (first second : UInt8) : Nat :=
  match order with
  | .little => first.toNat + 256 * second.toNat
  | .big => 256 * first.toNat + second.toNat

/-- The code units of a sequence of bytes, and whether a single byte is left over. -/
def utf16Units (order : ByteOrder) : List UInt8 → List Nat × Bool
  | first :: second :: bytes =>
    let (units, rest) := utf16Units order bytes
    (order.unit first second :: units, rest)
  | [_] => ([], true)
  | [] => ([], false)

/-- Whether a unit is the first of a surrogate pair. -/
def isLeading (unit : Nat) : Bool :=
  0xD800 ≤ unit && unit ≤ 0xDBFF

def isTrailing (unit : Nat) : Bool :=
  0xDC00 ≤ unit && unit ≤ 0xDFFF

def pairChar (leading trailing : Nat) : Char :=
  Char.ofNat (0x10000 + (leading - 0xD800) * 1024 + (trailing - 0xDC00))

/-- The characters of code units; `left` tells whether a single byte follows them. -/
def unitChars (left : Bool) : List Nat → List Char
  | [] => if left then [replacement] else []
  | [unit] =>
    if isLeading unit then [replacement]
    else (if isTrailing unit then replacement else Char.ofNat unit) :: unitChars left []
  | unit :: next :: units =>
    if isLeading unit then
      if isTrailing next then pairChar unit next :: unitChars left units
      else replacement :: unitChars left (next :: units)
    else
      (if isTrailing unit then replacement else Char.ofNat unit) :: unitChars left (next :: units)

def decodeUtf16 (order : ByteOrder) (bytes : List UInt8) : List Char :=
  let (units, left) := utf16Units order bytes
  unitChars left units

end AdaptiveForm.Byte
