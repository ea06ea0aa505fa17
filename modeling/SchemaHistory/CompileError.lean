import SchemaHistory.Findings
import SchemaHistory.Storage

/-!
Why no document can be made of a catalog.
-/

namespace SchemaHistory

set_option autoImplicit false

inductive CompileError where
  | missingSnapshot (version : Version)
  | missingAddedAt (name : String)
  | invalid (findings : Findings)
  | entity (name : String) (version : Version) (source : TypeError)
  | property (owner name : String) (version : Version) (source : TypeError)

def CompileError.message : CompileError → String
  | .missingSnapshot version => "could not find descriptions for version " ++ version.dotted
  | .missingAddedAt name => "could not find added_at_version for entity '" ++ name ++ "'"
  | .invalid findings => "catalog validation failed:\n" ++ findings.render
  | .entity name version source =>
      "entity '" ++ name ++ "' at version " ++ version.dotted ++ ": " ++ source.message
  | .property owner name version source =>
      "entity '" ++ owner ++ "' property '" ++ name ++ "' at version " ++ version.dotted ++ ": " ++
        source.message

end SchemaHistory
