import AdaptiveForm.Command.EnvironmentFile
import AdaptiveForm.Sheet.Location
import AdaptiveForm.Sheet.Payload

/-!
# The system that commands run on

Commands read and write files, look variables up and print lines. They do so through the operations
of a host, so that they can be run on a description of a system as well as on a system.
-/

namespace AdaptiveForm.Command

/-- The operations of a system. One that fails says why. -/
structure Host (m : Type → Type) where
  /-- The environment, as far as the given variables are concerned. -/
  lookUp : List String → m Environment
  environmentFile : m (Option (List UInt8))
  read : String → m (Except String (List UInt8))
  fetch : String → m (Except String (List UInt8))
  write : String → String → m (Except String Unit)
  /-- Prints a line of the result. -/
  print : String → m Unit
  /-- Prints a line about the course of the command. -/
  report : String → m Unit

variable {m : Type → Type} [Monad m]

def Host.environment (host : Host m) : m Environment := do
  let file ← host.environmentFile
  let bindings := (file.map EnvironmentFile.bindings).getD []
  let names := bindings.flatMap EnvironmentFile.Binding.names
  let environment ← host.lookUp (Environment.names ++ names)
  return EnvironmentFile.extend environment bindings

def Host.get (host : Host m) (location : String) : m (Except SourceError (List UInt8)) := do
  if Location.isUrl location then
    return (← host.fetch location).mapError .unreachable
  else
    return (← host.read location).mapError .unreadable

def Host.reportAll (host : Host m) : List String → m Unit
  | [] => pure ()
  | line :: lines => do
    host.report line
    host.reportAll lines

end AdaptiveForm.Command
