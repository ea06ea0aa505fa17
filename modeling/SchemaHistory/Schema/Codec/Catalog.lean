import SchemaHistory.Schema.Catalog
import SchemaHistory.Schema.Codec.Snapshot
import SchemaHistory.Text.Order

/-!
Catalogs as JSON values. Snapshots are the members of an object, keyed by version. Two keys may name
one version; then the one that is later in the order of texts counts. The catalog itself is read from an
object only and not from an array of its values.
-/

namespace SchemaHistory.Catalog

set_option autoImplicit false

def encodeSnapshot (entry : Version × Snapshot) : String × Json :=
  (entry.1.dotted, entry.2.encode)

def decodeSnapshot? (member : String × Json) : Option (Version × Snapshot) := do
  let version ← Version.parse? member.1
  let snapshot ← Snapshot.decode? member.2
  some (version, snapshot)

def decodeSnapshots? : Json → Option (List (Version × Snapshot))
  | .object members =>
      (members.mergeSort fun left right => !Text.precedes right.1 left.1).mapM decodeSnapshot?
  | _ => none

def encode (catalog : Catalog) : Json :=
  .object [("descriptions", .object (catalog.snapshots.map encodeSnapshot)),
    ("history_versions", .array (catalog.checkpoints.map Version.encode))]

def decode? (json : Json) : Option Catalog := do
  let snapshots ← json.required? "descriptions" decodeSnapshots?
  let checkpoints ← json.orDefault? "history_versions" (Json.list? Version.decode?) []
  some ((ofList snapshots).withCheckpoints checkpoints)

end SchemaHistory.Catalog
