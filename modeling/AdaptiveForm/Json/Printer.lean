import AdaptiveForm.Json.Basic

/-!
# Writing JSON

The compact text of a value, without white space, and its pretty text, with one entry a line and two
blanks of indentation a level. Strings escape the quote, the backslash and the control characters
below U+0020, and nothing else.
-/

namespace AdaptiveForm.Json

def hexDigit (n : Nat) : Char :=
  if n < 10 then Char.ofNat ('0'.toNat + n) else Char.ofNat ('a'.toNat + (n - 10))

def hexEscape (c : Char) : List Char :=
  let n := c.toNat
  ['\\', 'u', hexDigit (n / 4096 % 16), hexDigit (n / 256 % 16), hexDigit (n / 16 % 16),
    hexDigit (n % 16)]

def escapeChar (c : Char) : List Char :=
  match c with
  | '"' => ['\\', '"']
  | '\\' => ['\\', '\\']
  | '\x08' => ['\\', 'b']
  | '\x0c' => ['\\', 'f']
  | '\n' => ['\\', 'n']
  | '\r' => ['\\', 'r']
  | '\t' => ['\\', 't']
  | _ => if c.toNat < 0x20 then hexEscape c else [c]

def quote (s : String) : String :=
  "\"" ++ String.ofList (s.toList.flatMap escapeChar) ++ "\""

mutual

def compact : Json → String
  | .null => "null"
  | .bool value => if value then "true" else "false"
  | .number value => value.text
  | .string value => quote value
  | .array items => "[" ++ String.intercalate "," (compactItems items) ++ "]"
  | .object entries => "\x7b" ++ String.intercalate "," (compactEntries entries) ++ "\x7d"

def compactItems : List Json → List String
  | [] => []
  | item :: items => compact item :: compactItems items

def compactEntries : List (String × Json) → List String
  | [] => []
  | (key, value) :: entries => (quote key ++ ":" ++ compact value) :: compactEntries entries

end

def newLine (level : Nat) : String :=
  "\n" ++ String.ofList (List.replicate (2 * level) ' ')

/-- The parts of a container on lines of their own, or nothing between its brackets. -/
def prettyBlock (level : Nat) (left right : String) : List String → String
  | [] => left ++ right
  | parts =>
    let inner := newLine (level + 1)
    left ++ inner ++ String.intercalate ("," ++ inner) parts ++ newLine level ++ right

mutual

/-- The pretty text of a value that stands at a level of indentation. -/
def prettyAt (level : Nat) : Json → String
  | .array items => prettyBlock level "[" "]" (prettyItems (level + 1) items)
  | .object entries => prettyBlock level "\x7b" "\x7d" (prettyEntries (level + 1) entries)
  | value => compact value

def prettyItems (level : Nat) : List Json → List String
  | [] => []
  | item :: items => prettyAt level item :: prettyItems level items

def prettyEntries (level : Nat) : List (String × Json) → List String
  | [] => []
  | (key, value) :: entries =>
    (quote key ++ ": " ++ prettyAt level value) :: prettyEntries level entries

end

def pretty (value : Json) : String :=
  prettyAt 0 value

end AdaptiveForm.Json
