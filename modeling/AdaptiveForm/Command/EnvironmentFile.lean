import AdaptiveForm.Byte.Utf8
import AdaptiveForm.Form.Environment
import AdaptiveForm.Text.Numeric
import AdaptiveForm.Text.Space

/-!
# The environment file

A file beside the data may set variables of the environment, one `NAME=value` a line. It is read up
to the first line that is wrong, and what stands before that line counts. A value may be quoted, and
then go on over several lines; behind a dollar sign stands the name of a variable whose value is put
in its place. A variable that is set already keeps its value.
-/

namespace AdaptiveForm.EnvironmentFile

/-! ## Lines -/

/-- Where the search for the end of a line stands. -/
inductive LineState where
  | plain
  /-- Behind white space, where a comment may begin. -/
  | blank
  | escape
  | single
  | singleEscape
  | double
  | doubleEscape
  deriving DecidableEq, Repr

def LineState.afterPlain (c : Char) : LineState :=
  match c with
  | '\\' => .escape
  | '"' => .double
  | '\'' => .single
  | _ => .plain

def LineState.next (state : LineState) (c : Char) : LineState :=
  match state with
  | .plain =>
    if Text.isSpace c && c != '\n' && c != '\r' then .blank else LineState.afterPlain c
  | .blank => LineState.afterPlain c
  | .escape => .plain
  | .single =>
    match c with
    | '\\' => .singleEscape
    | '\'' => .plain
    | _ => .single
  | .singleEscape => .single
  | .double =>
    match c with
    | '\\' => .doubleEscape
    | '"' => .plain
    | _ => .double
  | .doubleEscape => .double

/-- The characters of a line before its comment, and the state at the end, which is plain if there
is a comment. -/
def scanLine (state : LineState) : List Char → List Char × LineState
  | [] => ([], state)
  | c :: cs =>
    if state = .blank ∧ c = '#' then ([], .plain)
    else
      let (kept, last) := scanLine (state.next c) cs
      (c :: kept, last)

/-- The bytes of a file up to and including each line feed. -/
def byteLines : List UInt8 → List (List UInt8)
  | [] => []
  | b :: bytes =>
    if b = 10 then [b] :: byteLines bytes
    else
      match byteLines bytes with
      | [] => [[b]]
      | line :: lines => (b :: line) :: lines

/-- Joins lines as long as quotes stay open. A line that begins with a number sign is left out; a
line that is not UTF-8, and one that the file ends in, end the reading. -/
def joinLines : LineState → List Char → List (List UInt8) → List (List Char)
  | _, _, [] => []
  | state, before, bytes :: rest =>
    match Byte.decodeUtf8? bytes with
    | none => []
    | some line =>
      if ((before ++ line).dropWhile Text.isSpace).head? = some '#' then joinLines .plain [] rest
      else
        match scanLine state line with
        | (kept, .plain) => (before ++ kept) :: joinLines .plain [] rest
        | (kept, last) => joinLines last (before ++ kept) rest

/-! ## Values -/

inductive Piece where
  | char (c : Char)
  | variable (name : String)
  deriving DecidableEq, Repr

inductive ValueState where
  /-- Outside quotes, or between double quotes. -/
  | text (quoted : Bool)
  | escape (quoted : Bool)
  | single
  /-- In the name of a variable, whose characters come last first. -/
  | name (quoted : Bool) (name : List Char)
  | braced (quoted : Bool) (name : List Char)
  /-- Behind the value, where only a comment may follow. -/
  | ended

def unescape? : Char → Option Char
  | 'n' => some '\n'
  | c => if c ∈ ['\\', '\'', '"', '$', ' '] then some c else none

def Piece.ofName (name : List Char) : Piece :=
  .variable (String.ofList name.reverse)

def readValue : ValueState → List Char → Option (List Piece)
  | .text quoted, [] | .escape quoted, [] => if quoted then none else some []
  | .name quoted name, [] => if quoted then none else some [.ofName name]
  | .single, [] | .braced _ _, [] => none
  | .ended, [] => some []
  | .ended, c :: cs =>
    match c with
    | ' ' | '\t' => readValue .ended cs
    | '#' => some []
    | _ => none
  | .escape quoted, c :: cs =>
    match unescape? c with
    | some c => (readValue (.text quoted) cs).map (.char c :: ·)
    | none => none
  | .single, c :: cs =>
    if c = '\'' then readValue (.text false) cs else (readValue .single cs).map (.char c :: ·)
  | .name quoted name, c :: cs =>
    if Text.isAlphanumeric c then readValue (.name quoted (c :: name)) cs
    else if c = '\x7b' ∧ name = [] then readValue (.braced quoted []) cs
    else if c = '$' then (readValue (.name quoted []) cs).map (.ofName name :: ·)
    else (readValue (.text quoted) cs).map fun pieces => .ofName name :: .char c :: pieces
  | .braced quoted name, c :: cs =>
    if c = '\x7d' then (readValue (.text quoted) cs).map (.ofName name :: ·)
    else readValue (.braced quoted (c :: name)) cs
  | .text true, c :: cs =>
    match c with
    | '$' => readValue (.name true []) cs
    | '"' => readValue (.text false) cs
    | '\\' => readValue (.escape true) cs
    | _ => (readValue (.text true) cs).map (.char c :: ·)
  | .text false, c :: cs =>
    match c with
    | '$' => readValue (.name false []) cs
    | '\'' => readValue .single cs
    | '"' => readValue (.text true) cs
    | '\\' => readValue (.escape false) cs
    | ' ' | '\t' => readValue .ended cs
    | _ => (readValue (.text false) cs).map (.char c :: ·)

/-! ## Bindings -/

structure Binding where
  name : String
  value : List Piece

inductive Line where
  | blank
  | binding (binding : Binding)
  | wrong

def isNameStart (c : Char) : Bool := c.isAlpha || c == '_'

def isNameChar (c : Char) : Bool := c.isAlphanum || c == '_' || c == '.'

/-- Splits the name of a variable off, and the white space behind it. -/
def splitName (cs : List Char) : Option (List Char × List Char) :=
  if cs.head?.any isNameStart then
    some (cs.takeWhile isNameChar, (cs.dropWhile isNameChar).dropWhile Text.isSpace)
  else none

def readBinding (name : List Char) : List Char → Line
  | '=' :: cs =>
    match cs.dropWhile Text.isSpace with
    | [] => .binding ⟨String.ofList name, []⟩
    | '#' :: _ => .binding ⟨String.ofList name, []⟩
    | cs =>
      match readValue (.text false) cs with
      | some value => .binding ⟨String.ofList name, value⟩
      | none => .wrong
  | _ => .wrong

/-- What a line says. The word `export` may stand in front of the name, and is a name itself if an
equals sign follows. -/
def Line.of (cs : List Char) : Line :=
  match Text.trimChars cs with
  | [] => .blank
  | '#' :: _ => .blank
  | cs =>
    match splitName cs with
    | none => .wrong
    | some (name, rest) =>
      if name = "export".toList && rest.head? != some '=' then
        match splitName rest with
        | none => .wrong
        | some (name, rest) => readBinding name rest
      else readBinding name rest

/-- The bindings of lines before the first wrong one. -/
def bindingsOfLines : List (List Char) → List Binding
  | [] => []
  | line :: lines =>
    match Line.of line with
    | .blank => bindingsOfLines lines
    | .binding binding => binding :: bindingsOfLines lines
    | .wrong => []

def withoutMark : List UInt8 → List UInt8
  | 0xEF :: 0xBB :: 0xBF :: bytes => bytes
  | bytes => bytes

def bindings (bytes : List UInt8) : List Binding :=
  bindingsOfLines (joinLines .plain [] (byteLines (withoutMark bytes)))

def fileName : String := ".env"

/-- The paths of the files that may be the environment file of a directory: one in the directory
itself, or else in the nearest directory around it. The components of the path come innermost
first. -/
def candidates : List String → List String
  | [] => ["/" ++ fileName]
  | component :: outer =>
    let directory := String.join ((component :: outer).reverse.map ("/" ++ ·))
    (directory ++ "/" ++ fileName) :: candidates outer

/-- The variables that a binding sets or mentions. -/
def Binding.names (binding : Binding) : List String :=
  binding.name :: binding.value.filterMap fun piece =>
    match piece with
    | .char _ => none
    | .variable name => some name

/-- The text of a piece. A variable that is not set has none. -/
def Piece.text (environment : Environment) : Piece → String
  | .char c => c.toString
  | .variable name => (environment name).getD ""

/-- The environment with a binding, unless its variable is set already. -/
def Binding.extend (environment : Environment) (binding : Binding) : Environment :=
  let value := String.join (binding.value.map (Piece.text environment))
  fun name =>
    if name = binding.name then some ((environment name).getD value) else environment name

def extend (environment : Environment) (bindings : List Binding) : Environment :=
  bindings.foldl Binding.extend environment

end AdaptiveForm.EnvironmentFile
