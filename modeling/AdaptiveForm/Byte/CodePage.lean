import AdaptiveForm.Byte.Utf16

/-!
# Western code pages

Two encodings of one byte a character. Each agrees with the first 256 code points but for a few
bytes. A byte order mark at the start of the bytes overrides the code page.
-/

namespace AdaptiveForm.Byte

/-- An encoding of one byte a character. -/
inductive CodePage where
  /-- ISO 8859-15, Latin with the euro sign. -/
  | latin9
  /-- Windows-1252, with letters and punctuation in place of the upper control characters. -/
  | windows1252
  deriving DecidableEq, Repr

/-- The bytes that stand for another code point than their own value. -/
def CodePage.exceptions : CodePage → List (Nat × Nat)
  | .latin9 => [
    (0xA4, 0x20AC), (0xA6, 0x160), (0xA8, 0x161), (0xB4, 0x17D), (0xB8, 0x17E), (0xBC, 0x152),
    (0xBD, 0x153), (0xBE, 0x178)]
  | .windows1252 => [
    (0x80, 0x20AC), (0x82, 0x201A), (0x83, 0x192), (0x84, 0x201E), (0x85, 0x2026), (0x86, 0x2020),
    (0x87, 0x2021), (0x88, 0x2C6), (0x89, 0x2030), (0x8A, 0x160), (0x8B, 0x2039), (0x8C, 0x152),
    (0x8E, 0x17D), (0x91, 0x2018), (0x92, 0x2019), (0x93, 0x201C), (0x94, 0x201D), (0x95, 0x2022),
    (0x96, 0x2013), (0x97, 0x2014), (0x98, 0x2DC), (0x99, 0x2122), (0x9A, 0x161), (0x9B, 0x203A),
    (0x9C, 0x153), (0x9E, 0x17E), (0x9F, 0x178)]

def CodePage.char (page : CodePage) (b : UInt8) : Char :=
  Char.ofNat ((page.exceptions.lookup b.toNat).getD b.toNat)

/-- Decodes bytes as the byte order mark before them says, which is dropped, or else by `otherwise`.
-/
def decodeMarked (otherwise : List UInt8 → List Char) : List UInt8 → List Char
  | 0xEF :: 0xBB :: 0xBF :: bytes => decodeUtf8 bytes
  | 0xFF :: 0xFE :: bytes => decodeUtf16 .little bytes
  | 0xFE :: 0xFF :: bytes => decodeUtf16 .big bytes
  | bytes => otherwise bytes

/-- Decodes bytes in a code page, unless a byte order mark says that they are Unicode. -/
def CodePage.decode (page : CodePage) (bytes : List UInt8) : List Char :=
  decodeMarked (·.map page.char) bytes

end AdaptiveForm.Byte
