import AdaptiveForm.Form.Transform
import AdaptiveForm.Pipeline.Options
import AdaptiveForm.Schema.Form
import AdaptiveForm.Sheet.Payload

/-!
# A whole run

A payload is loaded, transformed, and the form definition checked against its schema. Violations of
the schema and formulas that could not be compiled are part of the result; only a payload that
cannot be read or has no rows makes a run fail.
-/

namespace AdaptiveForm

structure Report where
  outcome : Outcome
  violations : List String
  /-- The number of rows of the payload, those that become nothing included. -/
  rowCount : Nat
  /-- How the table was read, if the payload was one. -/
  info : Option TableInfo

/-- Whether the form definition fits its schema, as far as it has been checked. -/
def Report.isValid (report : Report) : Bool :=
  report.violations.isEmpty

inductive PipelineError where
  | source (e : SourceError)
  | transform (e : TransformError)
  deriving DecidableEq, Repr

def PipelineError.message : PipelineError → String
  | .source e => "Source error: " ++ e.message
  | .transform e => "Transform error: " ++ e.message

namespace Pipeline

/-- The name of the source of a form: the one given, or else the location of the payload, if it is
not empty. -/
def sourceName (options : Options) (location : String) : Option String :=
  some (options.sourceId.getD location) |>.filter fun name => !name.isEmpty

def shownViolations : Nat := 3

def checkReports (violations : List String) : List Log.Entry :=
  Log.info "Validating form definition..." ::
    match violations with
    | [] => [Log.success "Form definition valid"]
    | _ =>
      Log.warning (toString violations.length ++ " schema violations") ::
        (violations.take shownViolations).map Log.error

def checkForm (skip : Bool) (definition : Json) : Run PipelineError (List String) :=
  if skip then ⟨[Log.info "(validation skipped)"], .ok []⟩
  else
    let violations := (Schema.formViolations definition).map Schema.Violation.message
    ⟨checkReports violations, .ok violations⟩

def failureReports (failures : List RuleFailure) : List Log.Entry :=
  match failures with
  | [] => []
  | _ => [Log.warning (toString failures.length ++ " formula rules kept as written")]

def run (settings : Settings) (options : Options) (loaded : Loaded) : Run PipelineError Report := do
  let source := sourceName options loaded.location
  let transformed :=
    transform settings options.validateRules source options.metadata loaded.payload
  let outcome ← transformed.mapError .transform
  Run.say (failureReports outcome.failures)
  let violations ← checkForm options.skipValidation outcome.definition
  return ⟨outcome, violations, ((rows? loaded.payload).getD []).length, loaded.info⟩

/-- Transforms bytes; their name decides how they are read. -/
def ofBytes (settings : Settings) (options : Options) (bytes : List UInt8) (name : String) :
    Run PipelineError Report := do
  let loaded ← (Loaded.ofBytes bytes name).mapError .source
  run settings options loaded

def ofPayload (settings : Settings) (options : Options) (payload : Json)
    (location : Option String) : Run PipelineError Report :=
  run settings options ⟨location.getD "", payload, none⟩

def loadReport (location : String) : Log.Entry :=
  if Location.isUrl location then Log.info ("Fetching " ++ location ++ "...")
  else Log.info ("Reading " ++ location ++ "...")

def ofContents (settings : Settings) (options : Options) (location : String)
    (contents : Except SourceError (List UInt8)) : Run PipelineError Report := do
  Run.say [loadReport location]
  let bytes ← (Run.ofExcept contents).mapError .source
  ofBytes settings options bytes location

/-- Transforms what is at a location; `get` gets its bytes. -/
def ofLocation {m : Type → Type} [Monad m] (get : String → m (Except SourceError (List UInt8)))
    (settings : Settings) (options : Options) (location : String) :
    m (Run PipelineError Report) := do
  if (Text.trim location).isEmpty then return ⟨[], .error (.transform .missingSource)⟩
  let contents ← get location
  return ofContents settings options location contents

end Pipeline

end AdaptiveForm
