import AdaptiveForm.Text.Split

/-!
# Locations

Where a payload comes from: a file or a web address. The name decides how its bytes are read.
-/

namespace AdaptiveForm.Location

def isUrl (location : String) : Bool :=
  "http://".toList.isPrefixOf location.toList || "https://".toList.isPrefixOf location.toList

/-- The part of a location before its query or fragment. -/
def pathChars (location : String) : List Char :=
  location.toList.takeWhile fun c => c != '?' && c != '#'

/-- The last component of a path; empty components and single dots do not count. -/
def fileName? (path : List Char) : Option (List Char) :=
  ((Text.splitChars '/' path).filter fun part => part != [] && part != ['.']).getLast?

/-- The characters behind the last dot of a file name, unless that dot is its first character. The
name of the parent directory has no extension. -/
def extension? (name : List Char) : Option (List Char) :=
  let behind := name.reverse.takeWhile (· != '.')
  if name = ['.', '.'] || name.length ≤ behind.length + 1 then none else some behind.reverse

def lowerAscii (c : Char) : Char :=
  if 'A' ≤ c ∧ c ≤ 'Z' then Char.ofNat (c.toNat + 32) else c

/-- Whether a location names a table: its extension is `csv` in any letter case. -/
def isTable (location : String) : Bool :=
  match (fileName? (pathChars location)).bind extension? with
  | some extension => extension.map lowerAscii == ['c', 's', 'v']
  | none => false

end AdaptiveForm.Location
