import SchemaHistory.Schema.Entity
import SchemaHistory.Schema.Subtype

/-!
One description of the whole model: its entities and its subtypes, looked up by name. Of two with
one name the earlier is found.
-/

namespace SchemaHistory

set_option autoImplicit false

structure Snapshot where
  entities : List Entity := []
  subtypes : List SubtypeDefinition := []
  deriving BEq

namespace Snapshot

def entity (snapshot : Snapshot) (name : String) : Except LookupError Entity :=
  match snapshot.entities.find? (·.name == name) with
  | some entity => .ok entity
  | none => .error (.unknownEntity name)

def subtype (snapshot : Snapshot) (name : String) : Except LookupError SubtypeDefinition :=
  match snapshot.subtypes.find? (·.name == name) with
  | some subtype => .ok subtype
  | none => .error (.unknownSubtype name)

/-- The entities that the store keeps, in the order of the author. -/
def persisted (snapshot : Snapshot) : List Entity := snapshot.entities.filter (·.isPersisted)

end Snapshot

end SchemaHistory
