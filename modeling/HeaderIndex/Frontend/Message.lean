import HeaderIndex.Frontend.ParsedUnit

/-!
# Messages of a front-end

A diagnostic is shown with its place in front if it has one.
-/

namespace HeaderIndex

namespace Diagnostic

/-- What a diagnostic is called by its severity. -/
def severityName (diagnostic : Diagnostic) : String :=
  match diagnostic.severity with
  | 0 => "ignored"
  | 1 => "note"
  | 2 => "warning"
  | 3 => "error"
  | 4 => "fatal error"
  | _ => "diagnostic"

/-- The text of a diagnostic of a unit. -/
def text (unit : ParsedUnit) (diagnostic : Diagnostic) : String :=
  let message := diagnostic.severityName ++ ": " ++ diagnostic.message
  match unit.fileName? diagnostic.location with
  | some file =>
    file ++ ":" ++ toString diagnostic.location.line ++ ":" ++ toString diagnostic.column ++ ": " ++
      message
  | none => message

end Diagnostic

/-- The texts of the diagnostics of a unit. -/
def ParsedUnit.messages (unit : ParsedUnit) : List String :=
  unit.diagnostics.map (Diagnostic.text unit)

end HeaderIndex
