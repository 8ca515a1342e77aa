import AdaptiveForm.Command.Basic
import AdaptiveForm.Command.Host
import AdaptiveForm.Json.Printer
import AdaptiveForm.Pipeline.Run

/-!
# Running commands

The result of a command is printed, or written to a file; what is said about its course goes to
another stream. A command fails if a file cannot be read or written or holds something else than
expected, if a checked document has violations, and, where a check is asked for, if a formula could
not be compiled.
-/

namespace AdaptiveForm.Command

inductive Status where
  | success
  | failure
  /-- The command line asks for no command. -/
  | misuse
  deriving DecidableEq, Repr

def Status.code : Status → Nat
  | .success => 0
  | .failure => 1
  | .misuse => 2

inductive Failure where
  | file (reason : String)
  /-- A file with text is not UTF-8. -/
  | notText
  | notJson (message : String)
  /-- The metadata of a file is no object. -/
  | notObject (path : String)
  | table (e : TableError)
  | pipeline (e : PipelineError)
  deriving DecidableEq, Repr

def Failure.message : Failure → String
  | .file reason => reason
  | .notText => "stream did not contain valid UTF-8"
  | .notJson message => message
  | .notObject path => "Metadata must be a JSON object: " ++ path
  | .table e => e.message
  | .pipeline e => e.message

/-! ## What is said -/

def tableLines (info : TableInfo) (remark : String) : List String := [
  "   Encoding: " ++ info.encoding,
  "   Delimiter: '" ++ Table.delimiterName info.delimiter ++ "'" ++ remark,
  "   Columns: " ++ String.intercalate ", " info.headers]

/-- How many formulas left as written, or violations of a form just built, are listed. -/
def listedFaults : Nat := 5

/-- How many violations of a checked document are listed. -/
def listedViolations : Nat := 10

def failureLines (failures : List RuleFailure) : List String :=
  match failures with
  | [] => []
  | _ =>
    ["", "⚠️  " ++ toString failures.length ++ " rule(s) kept as written:"] ++
      (failures.take listedFaults).map fun failure =>
        "   - " ++ failure.rule ++ " (" ++ failure.error ++ ")"

def checkLines (violations : List String) : List String :=
  ["", "✔️  Validation:"] ++
    match violations with
    | [] => ["   ✅ Form definition valid!"]
    | _ => (violations.take listedFaults).map ("   ❌ " ++ ·)

def reportLines (skipValidation : Bool) (report : Report) : List String :=
  ((report.info.map fun info => tableLines info "").getD []) ++ [
    "   Rows: " ++ toString report.rowCount,
    "",
    "⚙️  Built: " ++ toString report.outcome.fieldCount ++ " fields, " ++
      toString report.outcome.propertyCount ++ " properties"] ++
    failureLines report.outcome.failures ++
    (if skipValidation then [] else checkLines report.violations)

def hasFaults (report : Report) : Bool :=
  !report.outcome.failures.isEmpty || !report.isValid

/-- A line of a table of names: the name in a column of its own, and what it stands for. -/
def nameLine (source target : String) : String :=
  "  " ++ String.ofList (source.toList.rightpad 24 ' ') ++ " → " ++ target

def mappingLines (mappings : Mappings) : List String :=
  "Column names:" ::
    (mappings.names.map fun rename => nameLine rename.source rename.target) ++
    ["", "Field types:"] ++
    mappings.sortedTypes.map fun type => nameLine type.1 type.2

/-! ## Commands -/

variable {m : Type → Type} [Monad m]

/-- A step of a command that may give up. -/
abbrev Step (m : Type → Type) := ExceptT Failure m

/-- A step that has been taken, with what its failure means. -/
def attempt {ε α : Type} (toFailure : ε → Failure) (step : m (Except ε α)) : Step m α :=
  ExceptT.mk do return (← step).mapError toFailure

def readText (host : Host m) (path : String) : Step m (List UInt8) := do
  let bytes ← attempt .file (host.read path)
  match Byte.decodeUtf8? bytes with
  | some _ => return bytes
  | none => throw .notText

def readDocument (host : Host m) (path : String) : Step m Json := do
  let bytes ← readText host path
  match Json.read bytes with
  | .ok document => return document
  | .error e => throw (.notJson (e.message bytes))

def readMetadata (host : Host m) (path : String) : Step m Entries := do
  match ← readDocument host path with
  | .object entries => return entries
  | _ => throw (.notObject path)

/-- Writes the result to a file, or prints it. -/
def deliver (host : Host m) (output : Option String) (result : Json) : Step m Unit :=
  match output with
  | some path => do
    attempt .file (host.write path result.pretty)
    host.report ("💾 Output written to: " ++ path)
  | none => host.print result.pretty

def Transform.options (host : Host m) (request : Transform) : Step m Options := do
  let metadata ← match request.metadata with
    | some path => do
      let entries ← readMetadata host path
      pure (some entries)
    | none => pure none
  let options : Options :=
    { sourceId := request.sourceId
      metadata := metadata
      validateRules := request.validateRules
      skipValidation := request.skipValidation }
  return match request.action with
    | some action => options.withAction action
    | none => options

def Transform.run (host : Host m) (environment : Environment) (request : Transform) :
    Step m Status := do
  host.report ("📄 Processing: " ++ request.input)
  let options ← request.options host
  let run ← Pipeline.ofLocation (m := m) host.get environment.settings options request.input
  host.reportAll (run.log.map Log.Entry.line)
  let report ← attempt .pipeline (pure run.result)
  host.reportAll (reportLines request.skipValidation report)
  deliver host request.output report.outcome.toJson
  if request.check && hasFaults report then return .failure
  host.reportAll ["", "✨ Done!"]
  return .success

def Parse.run (host : Host m) (request : Parse) : Step m Status := do
  host.report ("📄 Parsing CSV: " ++ request.input)
  let bytes ← attempt .file (host.read request.input)
  let table ← attempt .table (pure (LoadedTable.ofBytes bytes request.delimiter))
  let remark := if request.delimiter.isNone then " (auto-detected)" else ""
  host.reportAll (tableLines table.info remark)
  host.report ("✅ Parsed " ++ toString table.info.rowCount ++ " rows")
  deliver host request.output (rowsPayload table.rows)
  return .success

def runValidate (host : Host m) (input : String) : Step m Status := do
  host.report ("✔️  Validating: " ++ input)
  let document ← readDocument host input
  match (Schema.formViolations document).map Schema.Violation.message with
  | [] =>
    host.report "✅ Form definition valid!"
    return .success
  | violations =>
    host.reportAll ["", "❌ " ++ toString violations.length ++ " violation(s):"]
    host.reportAll ((violations.take listedViolations).map ("   - " ++ ·))
    return .failure

def runMappings (host : Host m) : Step m Status := do
  host.print (String.intercalate "\n" (mappingLines Mappings.usual))
  return .success

def steps (host : Host m) (environment : Environment) : Command → Step m Status
  | .transform request => request.run host environment
  | .parse request => request.run host
  | .validate input => runValidate host input
  | .mappings => runMappings host

def usage : String :=
  "Usage: sheetform <transform | parse | validate | mappings> [arguments]"

def runLine (host : Host m) (line : List String) : m Status := do
  match ofLine? line with
  | none =>
    host.report usage
    return .misuse
  | some command =>
    let environment ← host.environment
    match ← (steps host environment command).run with
    | .ok status => return status
    | .error failure =>
      host.report ("❌ Error: " ++ failure.message)
      return .failure

end AdaptiveForm.Command
