import SchemaHistory.Config.Basic
import SchemaHistory.Markup.Document
import SchemaHistory.Validation

/-!
Making the document of a catalog at a version. The persisted entities of the current snapshot stand
in its order, each with all its stored shapes. The first failure is the answer.
-/

namespace SchemaHistory

set_option autoImplicit false

structure Artifact where
  name : String
  content : String
  deriving DecidableEq

namespace Catalog

/-- The checkpoints of the configuration, if it has any, count in place of the catalog's. -/
def checkpointsFor (catalog : Catalog) (config : Config) : List Version :=
  if config.checkpoints = [] then catalog.checkpoints else config.checkpoints

def check (catalog : Catalog) (config : Config) : Except CompileError Unit :=
  if config.validates then catalog.validate.mapError .invalid else .ok ()

def entityBlocks (catalog : Catalog) (config : Config) (current : Version) (entity : Entity) :
    Except CompileError (List Block) := do
  let shapes ← catalog.shapes entity current (catalog.checkpointsFor config)
  shapes.mapM fun shape => shape.block entity.previousName config.naming

def document (catalog : Catalog) (config : Config) (current : Version) :
    Except CompileError Document := do
  catalog.check config
  let snapshot ← catalog.snapshotAt current
  let groups ← snapshot.persisted.mapM (catalog.entityBlocks config current)
  .ok { version := current, blocks := groups.flatten }

def compile (catalog : Catalog) (config : Config) (current : Version) :
    Except CompileError Artifact := do
  let document ← catalog.document config current
  .ok { name := config.artifactName, content := document.render }

end Catalog

end SchemaHistory
