import SchemaHistory.Naming
import SchemaHistory.Schema.Codec.Snapshot
import SchemaHistory.Text.Blank

/-!
The configuration of the compiler, its JSON form, and the rule for the name of the artifact. The JSON
form is an object; the array of its values in their order is left out, and refused.
-/

namespace SchemaHistory

set_option autoImplicit false

namespace NamingMode

def key : NamingMode → String
  | .legacy => "legacy"
  | .current => "current"

def encode (mode : NamingMode) : Json := .text mode.key

def decode? (json : Json) : Option NamingMode := json.choice? all key

end NamingMode

structure Config where
  naming : NamingMode := default
  artifactName : String := "contents"
  validates : Bool := true
  currentVersion : Option Version := none
  /-- Count in place of the checkpoints of the catalog, if there are any. -/
  checkpoints : List Version := []
  deriving DecidableEq

namespace Config

def keys : List String :=
  ["naming", "artifact_name", "validate", "current_version", "history_versions"]

def encode (config : Config) : Json :=
  .object <|
    [("naming", config.naming.encode), ("artifact_name", .text config.artifactName),
      ("validate", .bool config.validates)] ++
    Json.given "current_version" Version.encode config.currentVersion ++
    if config.checkpoints = [] then [] else
      [("history_versions", .array (config.checkpoints.map Version.encode))]

/-- A member that no configuration has is refused. -/
def decode? (json : Json) : Option Config :=
  match json with
  | .object members =>
      if members.all fun member => keys.contains member.1 then do
        let naming ← json.orDefault? "naming" NamingMode.decode? default
        let artifactName ← json.orDefault? "artifact_name" Json.text? "contents"
        let validates ← json.orDefault? "validate" Json.bool? true
        let currentVersion ← json.optional? "current_version" Version.decode?
        let checkpoints ← json.orDefault? "history_versions" (Json.list? Version.decode?) []
        some { naming, artifactName, validates, currentVersion, checkpoints }
      else none
  | _ => none

end Config

inductive ConfigError where
  | unreadable
  | malformed
  | emptyArtifactName
  | pathAsArtifactName (name : String)
  deriving DecidableEq

def ConfigError.message : ConfigError → String
  | .unreadable => "failed to read config"
  | .malformed => "failed to parse config"
  | .emptyArtifactName => "invalid config: artifact_name is empty"
  | .pathAsArtifactName name =>
      "invalid config: artifact_name '" ++ name ++ "' must be a file name, not a path"

namespace Config

/-- The name of the artifact has to hold more than blanks, and neither kind of slash. -/
def check (config : Config) : Except ConfigError Unit :=
  let name := Text.trim config.artifactName.toList
  if name = [] then .error .emptyArtifactName
  else if '/' ∈ name ∨ '\\' ∈ name then .error (.pathAsArtifactName (.ofList name))
  else .ok ()

end Config

end SchemaHistory
