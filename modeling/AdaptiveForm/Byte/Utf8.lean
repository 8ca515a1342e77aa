/-!
# UTF-8

Reading and writing text as UTF-8. A sequence of bytes is split into characters and invalid parts;
an invalid part is as long as some character could still have begun with it, and at least one byte.
-/

namespace AdaptiveForm.Byte

/-- The character that stands for what cannot be decoded. -/
def replacement : Char := '\ufffd'

/-- Whether a byte lies in an interval, both ends included. -/
def within (low high : UInt8) (b : UInt8) : Bool :=
  low ≤ b && b ≤ high

def isTail (b : UInt8) : Bool :=
  within 0x80 0xBF b

def tailBits (b : UInt8) : Nat :=
  b.toNat % 64

/-- The second bytes that may follow a first byte of a character of three or four bytes; they leave
out overlong forms, surrogates and values beyond the last code point. -/
def secondRange (first : UInt8) : UInt8 × UInt8 :=
  if first = 0xE0 then (0xA0, 0xBF)
  else if first = 0xED then (0x80, 0x9F)
  else if first = 0xF0 then (0x90, 0xBF)
  else if first = 0xF4 then (0x80, 0x8F)
  else (0x80, 0xBF)

def isSecond (first second : UInt8) : Bool :=
  within (secondRange first).1 (secondRange first).2 second

/-- The character at the head of `first :: rest`, nothing for an invalid part, and how many bytes of
`rest` belong to it. -/
def headChar (first : UInt8) (rest : List UInt8) : Option Char × Nat :=
  if first < 0x80 then (some (Char.ofNat first.toNat), 0)
  else if within 0xC2 0xDF first then
    match rest with
    | b :: _ =>
      if isTail b then (some (Char.ofNat (first.toNat % 32 * 64 + tailBits b)), 1) else (none, 0)
    | [] => (none, 0)
  else if within 0xE0 0xEF first then
    match rest with
    | b :: c :: _ =>
      if !isSecond first b then (none, 0)
      else if !isTail c then (none, 1)
      else (some (Char.ofNat ((first.toNat % 16 * 64 + tailBits b) * 64 + tailBits c)), 2)
    | [b] => (none, if isSecond first b then 1 else 0)
    | [] => (none, 0)
  else if within 0xF0 0xF4 first then
    match rest with
    | b :: c :: d :: _ =>
      if !isSecond first b then (none, 0)
      else if !isTail c then (none, 1)
      else if !isTail d then (none, 2)
      else
        let high := (first.toNat % 8 * 64 + tailBits b) * 64 + tailBits c
        (some (Char.ofNat (high * 64 + tailBits d)), 3)
    | [b, c] => (none, if !isSecond first b then 0 else if !isTail c then 1 else 2)
    | [b] => (none, if isSecond first b then 1 else 0)
    | [] => (none, 0)
  else (none, 0)

/-- The characters and the invalid parts of a sequence of bytes, in order. -/
def utf8Parts : List UInt8 → List (Option Char)
  | [] => []
  | b :: bs => (headChar b bs).1 :: utf8Parts (bs.drop (headChar b bs).2)
termination_by bs => bs.length
decreasing_by simp only [List.length_drop, List.length_cons]; omega

/-- Decodes UTF-8, with one replacement character for every invalid part. -/
def decodeUtf8 (bytes : List UInt8) : List Char :=
  (utf8Parts bytes).map (·.getD replacement)

def decodeUtf8? (bytes : List UInt8) : Option (List Char) :=
  (utf8Parts bytes).mapM id

def encodeUtf8 (cs : List Char) : List UInt8 :=
  cs.flatMap String.utf8EncodeChar

/-- How many bytes the characters before the first invalid part take. -/
def validUtf8Width (bytes : List UInt8) : Nat :=
  (encodeUtf8 (((utf8Parts bytes).takeWhile Option.isSome).filterMap id)).length

def ofText (s : String) : List UInt8 :=
  encodeUtf8 s.toList

end AdaptiveForm.Byte
