/-!
# Reports

What a run reports on its way: short messages with a level and an indentation. A run that fails
keeps what it has reported so far.
-/

namespace AdaptiveForm

namespace Log

inductive Level where
  | info
  | success
  | warning
  | error
  deriving DecidableEq, Repr

/-- A message. Details of a step are indented under it. -/
structure Entry where
  indent : Nat
  level : Level
  message : String
  deriving DecidableEq, Repr

def info (message : String) : Entry := ⟨0, .info, message⟩

def success (message : String) : Entry := ⟨0, .success, message⟩

def warning (message : String) : Entry := ⟨0, .warning, message⟩

def error (message : String) : Entry := ⟨0, .error, message⟩

/-- A warning about a detail of a step. -/
def detail (message : String) : Entry := ⟨1, .warning, message⟩

def Level.mark : Level → String
  | .info => "   "
  | .success => "   ✓"
  | .warning => "   ⚠️"
  | .error => "   ❌"

def Entry.line (entry : Entry) : String :=
  String.join (List.replicate entry.indent "   ") ++ entry.level.mark ++ " " ++ entry.message

end Log

/-- The result of a run together with what it reported. -/
structure Run (ε α : Type) where
  log : List Log.Entry
  result : Except ε α

namespace Run

variable {ε α β : Type}

def ofExcept (result : Except ε α) : Run ε α := ⟨[], result⟩

def say (entries : List Log.Entry) : Run ε Unit := ⟨entries, .ok ()⟩

/-- A second run after the first one, unless that fails. -/
def andThen (first : Run ε α) (next : α → Run ε β) : Run ε β :=
  match first.result with
  | .error e => ⟨first.log, .error e⟩
  | .ok a => ⟨first.log ++ (next a).log, (next a).result⟩

instance : Monad (Run ε) where
  pure a := ⟨[], .ok a⟩
  bind := andThen

def mapError {δ : Type} (f : ε → δ) (run : Run ε α) : Run δ α :=
  ⟨run.log, run.result.mapError f⟩

end Run

end AdaptiveForm
