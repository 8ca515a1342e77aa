import AdaptiveForm.Byte.CodePage
import AdaptiveForm.Text.LetterCase

/-!
# Encodings of a sheet

The name of the encoding of a sheet is guessed from its bytes, and decides how they are decoded.
Names other than those of the western code pages are read as UTF-8.
-/

namespace AdaptiveForm.Byte

/-- The encoding that a byte order mark announces. The longer marks come first, since some begin
with a shorter one. -/
def markedEncoding? : List UInt8 → Option String
  | 0xEF :: 0xBB :: 0xBF :: _ => some "utf-8"
  | 0xFF :: 0xFE :: 0x00 :: 0x00 :: _ => some "UTF-32LE"
  | 0x00 :: 0x00 :: 0xFE :: 0xFF :: _ => some "UTF-32BE"
  | 0xFE :: 0xFF :: 0x00 :: 0x00 :: _ => some "X-ISO-10646-UCS-4-3412"
  | 0x00 :: 0x00 :: 0xFF :: 0xFE :: _ => some "X-ISO-100646-UCS-4-2143"
  | 0xFF :: 0xFE :: _ => some "UTF-16LE"
  | 0xFE :: 0xFF :: _ => some "UTF-16BE"
  | _ => none

/-- Whether a byte counts as plain: ASCII, or the no-break space of the code pages. -/
def isPlainByte (b : UInt8) : Bool :=
  b < 0x80 || b == 0xA0

/-- The number of characters of more than one byte from which on valid UTF-8 is believed. -/
def convincingCount : Nat := 5

def isConvincingUtf8 (bytes : List UInt8) : Bool :=
  match decodeUtf8? bytes with
  | some cs => convincingCount ≤ (cs.filter fun c => 0x80 ≤ c.toNat).length
  | none => false

/-- The name of the encoding of the bytes of a sheet: what a mark announces; UTF-8 for plain bytes
and for convincing UTF-8; otherwise the western code page. -/
def detectEncoding (bytes : List UInt8) : String :=
  match markedEncoding? bytes with
  | some name => name
  | none => if bytes.all isPlainByte || isConvincingUtf8 bytes then "utf-8" else "iso-8859-1"

/-- The code page that a name means. The name of the first western code page means the one with the
euro sign. -/
def codePage? (name : String) : Option CodePage :=
  let lower := Text.lowerCase name
  if ["iso-8859-1", "latin-1", "latin1"].contains lower then some .latin9
  else if ["windows-1252", "cp1252"].contains lower then some .windows1252
  else none

def byteOrderMark : Char := '\ufeff'

def dropMark : List Char → List Char
  | [] => []
  | c :: cs => if c = byteOrderMark then cs else c :: cs

/-- The text of bytes in the named encoding, without a leading byte order mark. -/
def decode (bytes : List UInt8) (encoding : String) : String :=
  let cs := match codePage? encoding with
    | some page => page.decode bytes
    | none => decodeUtf8 bytes
  String.ofList (dropMark cs)

end AdaptiveForm.Byte
