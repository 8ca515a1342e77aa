import AdaptiveForm.Command.Arguments

/-!
# Commands

What the program can be asked to do: transform a payload, read a table, check a form definition, and
show the tables of names and types. A command line that asks for nothing of this is refused as a
whole.
-/

namespace AdaptiveForm

namespace Command

structure Transform where
  input : String
  /-- The file for the result, which is printed otherwise. -/
  output : Option String
  sourceId : Option String
  metadata : Option String
  action : Option String
  validateRules : Bool
  skipValidation : Bool
  /-- Whether a formula left as written, or a violation of the schema, is a failure. -/
  check : Bool

structure Parse where
  input : String
  delimiter : Option Char
  output : Option String

end Command

inductive Command where
  | transform (request : Command.Transform)
  | parse (request : Command.Parse)
  | validate (input : String)
  | mappings

namespace Command

def isPath (value : String) : Bool := !value.isEmpty

def isCharacter (value : String) : Bool := value.length == 1

def outputOption : OptionForm := .valued "output" (some 'o') isPath

def transformOptions : List OptionForm := [
  outputOption,
  .valued "source-id" none fun _ => true,
  .valued "metadata" none isPath,
  .valued "action" none fun _ => true,
  .flag "validate-rules",
  .flag "no-validate",
  .flag "check"]

def parseOptions : List OptionForm := [
  .valued "delimiter" (some 'd') isCharacter,
  outputOption]

/-- The only operand of some arguments, if there is exactly one. -/
def Arguments.operand? (arguments : Arguments) : Option String :=
  match arguments.operands with
  | [operand] => some operand
  | _ => none

def Arguments.path? (arguments : Arguments) : Option String :=
  arguments.operand?.filter isPath

def Transform.ofArguments? (arguments : Arguments) : Option Transform :=
  arguments.operand?.map fun input =>
    { input := input
      output := arguments.value? "output"
      sourceId := arguments.value? "source-id"
      metadata := arguments.value? "metadata"
      action := arguments.value? "action"
      validateRules := arguments.has "validate-rules"
      skipValidation := arguments.has "no-validate"
      check := arguments.has "check" }

def Parse.ofArguments? (arguments : Arguments) : Option Parse :=
  arguments.path?.map fun input =>
    { input := input
      delimiter := (arguments.value? "delimiter").bind fun value => value.toList.head?
      output := arguments.value? "output" }

/-- The command of a command line, which begins with the name of the command. -/
def ofLine? : List String → Option Command
  | "transform" :: rest => do
    let arguments ← Arguments.read transformOptions {} none rest
    let request ← Transform.ofArguments? arguments
    return .transform request
  | "parse" :: rest => do
    let arguments ← Arguments.read parseOptions {} none rest
    let request ← Parse.ofArguments? arguments
    return .parse request
  | "validate" :: rest => do
    let arguments ← Arguments.read [] {} none rest
    let input ← arguments.path?
    return .validate input
  | "mappings" :: rest => do
    let arguments ← Arguments.read [] {} none rest
    if arguments.operands.isEmpty then return .mappings else none
  | _ => none

end Command

end AdaptiveForm
