import SchemaHistory.CompileError
import SchemaHistory.Schema.Catalog

/-!
The stored shapes that an entity has had. Without a history it has one shape, drawn from the current
snapshot. With a history it has one shape for each boundary: the version that added it, and each
version that its mappings lead to. The shape of a boundary is drawn from the snapshot that described
it: the current one for the current version; otherwise the latest checkpoint before the next
boundary that is of another release; and where there is none, the version that added the entity.
-/

namespace SchemaHistory

set_option autoImplicit false

/-- One stored shape: the entity as a snapshot describes it, stored under a version as label. -/
structure Shape where
  entityName : String
  label : Version
  drawnFrom : Version
  snapshot : Snapshot
  previousName : Option String := none

/-- The latest checkpoint before `next` that is no patch of the label. -/
def latestCheckpoint (checkpoints : List Version) (label next : Version) : Option Version :=
  (checkpoints.filter fun version => decide (version < next) && !version.sameRelease label).max?

/-- The version whose snapshot describes the shape of a boundary. -/
def describingVersion (checkpoints : List Version) (current addedAt label next : Version) : Version :=
  if label = current then label
  else (latestCheckpoint checkpoints label next).getD addedAt

namespace Catalog

def snapshotAt (catalog : Catalog) (version : Version) : Except CompileError Snapshot :=
  match catalog.snapshot version with
  | .ok snapshot => .ok snapshot
  | .error (.missingSnapshot version) => .error (.missingSnapshot version)

def shape (catalog : Catalog) (entity : Entity) (current addedAt : Version)
    (checkpoints : List Version) (boundary : Version × Version) : Except CompileError Shape := do
  let (label, next) := boundary
  let version := describingVersion checkpoints current addedAt label next
  let snapshot ← catalog.snapshotAt version
  .ok { entityName := entity.name, label, drawnFrom := version, snapshot }

def shapes (catalog : Catalog) (entity : Entity) (current : Version) (checkpoints : List Version) :
    Except CompileError (List Shape) := do
  let snapshot ← catalog.snapshotAt current
  match entity.addedAt, entity.mappings with
  | none, _ => .error (.missingAddedAt entity.name)
  | some addedAt, none =>
      .ok [{ entityName := entity.name, label := addedAt, drawnFrom := current, snapshot
             previousName := entity.previousName }]
  | some addedAt, some mappings =>
      ((addedAt :: mappings).zip (mappings ++ [current])).mapM
        (catalog.shape entity current addedAt checkpoints)

end Catalog

end SchemaHistory
