/-!
# Functions

The functions that formulas may call, each with the way its call is written as a rule, and the
functions that rules may call.
-/

namespace AdaptiveForm.Rule

/-- How the call of a spreadsheet function is written as a rule. -/
inductive Lowering where
  /-- A call with one array of all arguments, into which ranges are spliced. -/
  | aggregate (target : String)
  | direct (target : String)
  /-- `if`, whose third argument is `false` when it is left out. -/
  | conditional
  /-- The arguments joined by `&` in parentheses. -/
  | join

def lowerings : List (String × Lowering) := [
  ("sum", .aggregate "sum"),
  ("average", .aggregate "avg"),
  ("min", .aggregate "min"),
  ("max", .aggregate "max"),
  ("count", .aggregate "length"),
  ("if", .conditional),
  ("concatenate", .join),
  ("concat", .join),
  ("abs", .direct "abs"),
  ("round", .direct "round"),
  ("ceiling", .direct "ceil"),
  ("floor", .direct "floor"),
  ("mod", .direct "mod"),
  ("power", .direct "power"),
  ("sqrt", .direct "sqrt"),
  ("len", .direct "length"),
  ("upper", .direct "upper"),
  ("lower", .direct "lower"),
  ("trim", .direct "trim"),
  ("left", .direct "left"),
  ("right", .direct "right"),
  ("mid", .direct "mid"),
  ("today", .direct "today"),
  ("now", .direct "now"),
  ("and", .direct "and"),
  ("or", .direct "or"),
  ("not", .direct "not")]

def lowering? (function : String) : Option Lowering :=
  lowerings.lookup function

def Lowering.target? : Lowering → Option String
  | .aggregate target => some target
  | .direct target => some target
  | .conditional => some "if"
  | .join => none

/-- The rule functions that compiled formulas call, in the order of the table; a function that
several spreadsheet functions turn into is listed for each of them. -/
def compiledFunctions : List String :=
  lowerings.filterMap fun (_, lowering) => lowering.target?

def runtimeFunctions : List String := [
  "merge", "request", "submitForm", "dispatchEvent", "setProperty", "exportData", "validate",
  "contains", "join", "keys", "values", "toString", "toNumber"]

def isKnown (function : String) : Bool :=
  runtimeFunctions.contains function || compiledFunctions.contains function

end AdaptiveForm.Rule
