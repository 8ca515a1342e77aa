import AdaptiveForm.Json.Basic

/-!
# Options of a run

How one payload is transformed: under which name, with which metadata, and what is checked.
-/

namespace AdaptiveForm

structure Options where
  /-- The name of the source; the location of the payload if there is none. -/
  sourceId : Option String := none
  /-- Metadata that goes over the usual one. -/
  metadata : Option Entries := none
  validateRules : Bool := false
  skipValidation : Bool := false

/-- The options with the action of the form set, which goes before the name of the source. -/
def Options.withAction (options : Options) (action : String) : Options :=
  { options with
    metadata := some (Entries.insert (options.metadata.getD []) "action" (.string action)) }

end AdaptiveForm
