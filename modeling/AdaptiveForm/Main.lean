import AdaptiveForm.Command.Run

/-!
# The program

The command line on a real system: files, variables and the standard streams.
-/

namespace AdaptiveForm

open Command

/-- The number of an error of the system, and its description there. -/
def systemFault? : IO.Error → Option (UInt32 × String)
  | .alreadyExists _ code details | .noFileOrDirectory _ code details
  | .invalidArgument _ code details | .permissionDenied _ code details
  | .resourceExhausted _ code details | .inappropriateType _ code details
  | .noSuchThing _ code details | .interrupted _ code details => some (code, details)
  | .otherError code details | .resourceBusy code details | .resourceVanished code details
  | .unsupportedOperation code details | .hardwareFault code details
  | .unsatisfiedConstraints code details | .illegalOperation code details
  | .protocolError code details | .timeExpired code details => some (code, details)
  | .unexpectedEof | .userError _ => none

def reasonOf (e : IO.Error) : String :=
  match systemFault? e with
  | some (code, details) => details ++ " (os error " ++ toString code ++ ")"
  | none => toString e

/-- An action with its error as a value. -/
def catchReason {α : Type} (action : IO α) : IO (Except String α) := do
  try
    return .ok (← action)
  catch e =>
    return .error (reasonOf e)

def contentsOf (path : String) : IO (List UInt8) :=
  IO.FS.withFile path .read fun handle => do return (← handle.readBinToEnd).toList

/-- The contents of the first of some files that can be read. -/
def firstContents : List String → IO (Option (List UInt8))
  | [] => return none
  | path :: paths => do
    match ← catchReason (contentsOf path) with
    | .ok contents => return some contents
    | .error _ => firstContents paths

/-- The environment file of the directory that the program is run in. -/
def environmentContents : IO (Option (List UInt8)) := do
  let components := (Text.split '/' (← IO.currentDir).toString).filter fun part => !part.isEmpty
  firstContents (EnvironmentFile.candidates components.reverse)

def valuesOf (names : List String) : IO Environment := do
  let values ← names.mapM fun name => do return (name, ← IO.getEnv name)
  return fun name => (values.lookup name).join

/-- The system that the program runs on. Web addresses are out of its reach. -/
def system : Host IO where
  lookUp := valuesOf
  environmentFile := environmentContents
  read path := catchReason (contentsOf path)
  fetch _ := return .error "the network cannot be reached"
  write path text := catchReason (IO.FS.writeFile path text)
  print := IO.println
  report := IO.eprintln

end AdaptiveForm

def main (arguments : List String) : IO UInt32 := do
  let status ← AdaptiveForm.Command.runLine AdaptiveForm.system arguments
  return status.code.toUInt32
