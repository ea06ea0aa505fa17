import SchemaHistory.Compile
import SchemaHistory.Config.File
import SchemaHistory.Output.FileTree
import SchemaHistory.Output.Recorder

/-!
Making an artifact and handing it to a sink. Nothing is written before the document is complete, so
a failure of any earlier stage leaves the sink as it was.
-/

namespace SchemaHistory

set_option autoImplicit false

inductive GenerateError where
  | config (error : ConfigError)
  | missingCurrentVersion
  | compile (error : CompileError)
  | sink (error : SinkError)

def GenerateError.message : GenerateError → String
  | .config error => error.message
  | .missingCurrentVersion => "config does not set current_version"
  | .compile error => error.message
  | .sink error => "failed to write '" ++ error.path ++ "'"

namespace Catalog

def deliver {σ : Type} (catalog : Catalog) (config : Config) (current : Version)
    (directory : String) (sink : Sink σ) (state : σ) : Except GenerateError Artifact × σ :=
  match catalog.compile config current with
  | .error error => (.error (.compile error), state)
  | .ok artifact =>
      match sink.write artifact.name artifact.content directory state with
      | (.error error, state) => (.error (.sink error), state)
      | (.ok _, state) => (.ok artifact, state)

/-- Reads the configuration file, whose content is given if there is one, and delivers the artifact
of the version it names into a directory of a file tree. -/
def generate (catalog : Catalog) (configFile : Option String) (directory : String)
    (tree : FileTree) : Except GenerateError Artifact × FileTree :=
  match Config.load configFile with
  | .error error => (.error (.config error), tree)
  | .ok config =>
      match config.currentVersion with
      | none => (.error .missingCurrentVersion, tree)
      | some current => catalog.deliver config current directory FileTree.sink tree

end Catalog

end SchemaHistory
