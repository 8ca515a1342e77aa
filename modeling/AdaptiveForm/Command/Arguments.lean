/-!
# Arguments

The arguments of a command are options and operands in any order. An option is written with its name
behind two dashes, or with its letter behind one; its value is the next argument, or is attached to
it. A value of its own does not begin with a dash, unless it is a dash and nothing else. Behind two
dashes alone only operands follow. No option is given twice.
-/

namespace AdaptiveForm.Command

structure OptionForm where
  name : String
  letter : Option Char
  /-- Which values it takes; a flag takes none. -/
  value : Option (String → Bool)

def OptionForm.flag (name : String) : OptionForm := ⟨name, none, none⟩

def OptionForm.valued (name : String) (letter : Option Char) (accepts : String → Bool) :
    OptionForm :=
  ⟨name, letter, some accepts⟩

/-- The arguments that have been read: options with their values, and operands. -/
structure Arguments where
  options : List (String × String) := []
  operands : List String := []

def Arguments.has (arguments : Arguments) (name : String) : Bool :=
  (arguments.options.lookup name).isSome

def Arguments.value? (arguments : Arguments) (name : String) : Option String :=
  arguments.options.lookup name

/-- The arguments with one more option, if it is not there yet. -/
def Arguments.addOption (arguments : Arguments) (name value : String) : Option Arguments :=
  if arguments.has name then none
  else some { arguments with options := arguments.options ++ [(name, value)] }

def Arguments.addOperands (arguments : Arguments) (operands : List String) : Arguments :=
  { arguments with operands := arguments.operands ++ operands }

inductive Written where
  /-- Two dashes and a name, with a value behind an equals sign or without one. -/
  | named (name : String) (attached : Option String)
  /-- A dash and a letter, with a value behind it or without one. -/
  | lettered (letter : Char) (attached : Option String)
  | operand

/-- How an argument that is not two dashes alone is written. The value attached to a letter may come
behind an equals sign. -/
def Written.of (argument : String) : Written :=
  match argument.toList with
  | '-' :: '-' :: cs =>
    let name := String.ofList (cs.takeWhile (· != '='))
    match cs.dropWhile (· != '=') with
    | [] => .named name none
    | _ :: value => .named name (some (String.ofList value))
  | ['-', letter] => .lettered letter none
  | '-' :: letter :: '=' :: value => .lettered letter (some (String.ofList value))
  | '-' :: letter :: value => .lettered letter (some (String.ofList value))
  | _ => .operand

/-- Whether an argument may be the value of the option before it. -/
def isDetachedValue (argument : String) : Bool :=
  match Written.of argument with
  | .operand => true
  | _ => false

def Arguments.addValue (arguments : Arguments) (option : OptionForm) (value : String) :
    Option Arguments :=
  match option.value with
  | some accepts => if accepts value then arguments.addOption option.name value else none
  | none => none

/-- What an option leads to: the arguments, and the option if its value is still to come. -/
def Arguments.takeOption (arguments : Arguments) (option : OptionForm) (attached : Option String) :
    Option (Arguments × Option OptionForm) :=
  match attached, option.value with
  | some value, _ => (arguments.addValue option value).map fun next => (next, none)
  | none, some _ => some (arguments, some option)
  | none, none => (arguments.addOption option.name "").map fun next => (next, none)

/-- Takes up one argument where no value is waited for. -/
def Arguments.take (forms : List OptionForm) (arguments : Arguments) (argument : String) :
    Option (Arguments × Option OptionForm) :=
  match Written.of argument with
  | .named name attached => do
    let option ← forms.find? fun form => form.name == name
    arguments.takeOption option attached
  | .lettered letter attached => do
    let option ← forms.find? fun form => form.letter == some letter
    arguments.takeOption option attached
  | .operand => some (arguments.addOperands [argument], none)

/-- Reads arguments; `waiting` is an option whose value comes next. -/
def Arguments.read (forms : List OptionForm) : Arguments → Option OptionForm → List String →
    Option Arguments
  | arguments, none, [] => some arguments
  | _, some _, [] => none
  | arguments, some option, argument :: rest =>
    if isDetachedValue argument then do
      let next ← arguments.addValue option argument
      next.read forms none rest
    else none
  | arguments, none, argument :: rest =>
    if argument = "--" then some (arguments.addOperands rest)
    else do
      let (next, waiting) ← arguments.take forms argument
      next.read forms waiting rest

end AdaptiveForm.Command
