import AdaptiveForm.Text.CodePoints

/-!
# White space

The characters with the Unicode property White_Space. They separate tokens in formulas and rules,
and are trimmed off the cells of a sheet.
-/

namespace AdaptiveForm.Text

def spaceRanges : CodePoints := [
  (0x9, 0xD), (0x20, 0x20), (0x85, 0x85), (0xA0, 0xA0), (0x1680, 0x1680), (0x2000, 0x200A),
  (0x2028, 0x2029), (0x202F, 0x202F), (0x205F, 0x205F), (0x3000, 0x3000)]

def isSpace (c : Char) : Bool :=
  spaceRanges.has c.toNat

def trimChars (cs : List Char) : List Char :=
  ((cs.dropWhile isSpace).reverse.dropWhile isSpace).reverse

def trim (s : String) : String :=
  String.ofList (trimChars s.toList)

end AdaptiveForm.Text
