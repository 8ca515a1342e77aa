import AdaptiveForm.Field.Build
import AdaptiveForm.Form.Definition
import AdaptiveForm.Form.Panel
import AdaptiveForm.Form.Property
import AdaptiveForm.Form.Trace
import AdaptiveForm.Log

/-!
# From rows to a form

The rows of a payload are taken one after the other. A row without a name is passed over. Any other
row loses its blank cells, gets the message for required fields, and has its columns renamed; then
it either becomes a property or is finished as a field and attached to its panel. Only when all rows
have their places are the formulas compiled, so that they may refer to rows below them. A formula
that cannot be compiled stays in its field and is reported.
-/

namespace AdaptiveForm

/-- A formula that could not be compiled, as the sheet has it, and why. -/
structure RuleFailure where
  rule : String
  error : String
  deriving DecidableEq, Repr

def RuleFailure.toJson (failure : RuleFailure) : Json :=
  .object [("rule", .string failure.rule), ("error", .string failure.error)]

structure Outcome where
  definition : Json
  /-- The payload, unless it was a form definition itself. -/
  source : Option Json
  failures : List RuleFailure

def Outcome.toJson (outcome : Outcome) : Json :=
  .object [
    ("formDefinition", outcome.definition),
    ("sourceData", outcome.source.getD .null),
    ("errors", .array (outcome.failures.map RuleFailure.toJson))]

inductive TransformError where
  | missingSource
  | missingRows (sourceId : Option String)
  deriving DecidableEq, Repr

def TransformError.message : TransformError → String
  | .missingSource => "A source location is required"
  | .missingRows sourceId =>
    "Unable to retrieve the form details from " ++ sourceId.getD "unknown source"

def rows? (payload : Json) : Option (List Json) :=
  (payload.get? "data").bind Json.asArray?

/-- Whether a row becomes anything: it needs a name, under its usual or its spreadsheet column. -/
def isEligible (row : Entries) : Bool :=
  ["name", "Field"].any fun column => (row.get? column).any Json.isTruthy

def eligibleRows (rows : List Json) : List Entries :=
  (rows.filterMap Json.asObject?).filter isEligible

/-- A row with its blank cells left out, the message for required fields, and its columns renamed.
-/
def normalizeRow (settings : Settings) (row : Entries) : Field :=
  let messages := Json.object [("required", .string settings.requiredMessage)]
  Field.normalizeNames settings.mappings
    (Entries.insert (Field.stripBlanks row) "constraintMessages" messages)

/-- What has been built from the rows so far. -/
structure Pass where
  tree : Tree
  panels : Panels
  properties : Properties
  trace : Trace
  /-- The fields with a formula. -/
  queue : List Nat
  /-- The number of the next row. -/
  row : Nat
  log : List Log.Entry

namespace Pass

def initial : Pass where
  tree := .empty
  panels := .initial
  properties := .empty
  trace := .empty
  queue := []
  row := Trace.firstRow
  log := []

def unknownParentWarning (row : Nat) (parent : String) : Log.Entry :=
  Log.detail
    ("Row " ++ toString row ++ ": parent '" ++ parent ++ "' is not a known panel, attached to root")

def addProperty (pass : Pass) (row : Field) : Pass :=
  { pass with
    properties := pass.properties.record row
    trace := pass.trace.record pass.row (.property (Properties.nameOf row))
    row := pass.row + 1 }

/-- The name under which a normalized row becomes a panel. -/
def panelName? (row : Field) : Option String :=
  if row.type? = some Field.panelType then row.name? else none

def addField (settings : Settings) (pass : Pass) (row : Field) : Pass :=
  let field := row.build settings
  let attached := pass.panels.attach pass.tree field
  { pass with
    tree := attached.tree
    panels := match panelName? row with
      | some name => pass.panels.register name attached.id
      | none => pass.panels
    trace := pass.trace.record pass.row (.field attached.id)
    queue := if field.hasFormula then pass.queue ++ [attached.id] else pass.queue
    row := pass.row + 1
    log := pass.log ++ (attached.unknownParent.map (unknownParentWarning pass.row)).toList }

def addRow (settings : Settings) (pass : Pass) (row : Entries) : Pass :=
  let normalized := normalizeRow settings row
  if Properties.isProperty normalized then pass.addProperty normalized
  else pass.addField settings normalized

def ofRows (settings : Settings) (rows : List Json) : Pass :=
  (eligibleRows rows).foldl (addRow settings) initial

end Pass

/-- The outcome of compiling one field's formula. -/
structure Compilation where
  id : Nat
  rule : String
  result : Except Rule.CompileError String

def compileField? (validate : Bool) (tree : Tree) (trace : Trace) (id : Nat) : Option Compilation :=
  ((tree.field? id).bind Field.formula?).map fun rule =>
    ⟨id, rule, Rule.compile (trace.paths tree) validate rule⟩

def Compilation.apply (tree : Tree) (compilation : Compilation) : Tree :=
  match compilation.result, tree.field? compilation.id with
  | .ok rule, some field => tree.setField compilation.id (field.setValueRule rule)
  | _, _ => tree

/-- What is reported of a formula that could not be compiled. -/
def Compilation.failure? (compilation : Compilation) : Option RuleFailure :=
  match compilation.result with
  | .ok _ => none
  | .error e => some ⟨compilation.rule, e.message⟩

/-- Compiles the formulas of the queued fields, all of them against the same tree, and returns the
tree with the rules and the formulas that could not be compiled. -/
def compileAll (validate : Bool) (tree : Tree) (queue : List Nat) (trace : Trace) :
    Tree × List RuleFailure :=
  let compilations := queue.filterMap (compileField? validate tree trace)
  (compilations.foldl Compilation.apply tree, compilations.filterMap Compilation.failure?)

def RuleFailure.warning (failure : RuleFailure) : Log.Entry :=
  Log.detail ("Rule " ++ failure.rule ++ " not compiled: " ++ failure.error)

/-- The report at the end: how many rows were built, and how their formulas fared. -/
def builtReport (rows formulas failed : Nat) : Log.Entry :=
  if failed = 0 then
    Log.success
      ("Built " ++ toString rows ++ " rows, " ++ toString formulas ++ " formula rules compiled")
  else
    Log.warning
      ("Built " ++ toString rows ++ " rows, " ++ toString failed ++ " of " ++ toString formulas ++
        " formula rules failed")

structure BuiltForm where
  definition : Definition
  failures : List RuleFailure
  log : List Log.Entry

def buildForm (settings : Settings) (validate : Bool) (sourceId : Option String)
    (metadata : Option Entries) (rows : List Json) : BuiltForm :=
  let pass := Pass.ofRows settings rows
  let (tree, failures) := compileAll validate pass.tree pass.queue pass.trace
  { definition :=
      { Definition.new sourceId metadata with
        properties := pass.properties.defaults
        rules := pass.properties.formRules
        items := tree.items }
    failures := failures
    log :=
      pass.log ++ failures.map RuleFailure.warning ++
        [builtReport pass.trace.size pass.queue.length failures.length] }

/-- Whether a payload is a form definition already. -/
def isDefinition (payload : Json) : Bool :=
  (payload.get? Definition.marker).any Json.isTruthy

/-- Transforms a payload into a form definition. A payload that is one already is returned as it
is. -/
def transform (settings : Settings) (validate : Bool) (sourceId : Option String)
    (metadata : Option Entries) (payload : Json) : Run TransformError Outcome :=
  if isDefinition payload then
    ⟨[Log.info "Source is already a form definition, passing through"], .ok ⟨payload, none, []⟩⟩
  else
    match rows? payload with
    | none => ⟨[], .error (.missingRows sourceId)⟩
    | some rows =>
      let form := buildForm settings validate sourceId metadata rows
      ⟨Log.info ("Transforming " ++ toString rows.length ++ " rows...") :: form.log,
        .ok ⟨form.definition.toJson, some payload, form.failures⟩⟩

mutual

/-- The number of fields in the value of `items`, fields inside fields included. -/
def countItems : Json → Nat
  | .array items => countFields items
  | _ => 0

def countFields : List Json → Nat
  | [] => 0
  | item :: items => 1 + countInside item + countFields items

def countInside : Json → Nat
  | .object entries => countEntries entries
  | _ => 0

def countEntries : List (String × Json) → Nat
  | [] => 0
  | (key, value) :: entries => if key = "items" then countItems value else countEntries entries

end

/-- The number of fields of the form, panels included. -/
def Outcome.fieldCount (outcome : Outcome) : Nat :=
  countInside outcome.definition

def Outcome.propertyCount (outcome : Outcome) : Nat :=
  match (outcome.definition.get? "properties").bind Json.asObject? with
  | some properties => Entries.keys properties |>.length
  | none => 0

end AdaptiveForm
