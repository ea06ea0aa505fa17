import SchemaHistory.Schema.Snapshot

/-!
How the values of a property are stored. A reference to one record is stored as the identifier of
its target, which may itself refer to a record of another entity; so an identifier is followed from
entity to entity. The walk fails when it comes back to a name, or when it would pass through more
than `longestChain` entities.
-/

namespace SchemaHistory

set_option autoImplicit false

def longestChain : Nat := 32

inductive TypeError where
  | lookup (error : LookupError)
  | unstorableIdentifier (entity : String)
  | identifierCycle (entity : String) (chain : List String)
  | identifierTooDeep (entity : String)
  deriving DecidableEq

def TypeError.message : TypeError → String
  | .lookup error => error.message
  | .unstorableIdentifier entity => "cannot persist identifier of entity '" ++ entity ++ "'"
  | .identifierCycle entity chain =>
      "identifier of entity '" ++ entity ++ "' is cyclic: " ++ " -> ".intercalate chain
  | .identifierTooDeep entity =>
      "identifier chain starting at entity '" ++ entity ++ "' exceeds " ++ longestChain.repr ++
        " entities"

/-- Where an identifier leads: to an answer, or to the entity whose identifier it is. -/
inductive Hop where
  | stop (answer : Except TypeError StorageType)
  | follow (target : Entity)

namespace Snapshot

def propertyHop (snapshot : Snapshot) (entity : Entity) : PropertyType → Hop
  | .scalar type => .stop (.ok type.storage)
  | .relationship ⟨target, .toOne⟩ =>
      match snapshot.entity target with
      | .ok target => .follow target
      | .error error => .stop (.error (.lookup error))
  | .relationship ⟨_, .toMany⟩ | .array _ | .subtype _ =>
      .stop (.error (.unstorableIdentifier entity.name))

def hop (snapshot : Snapshot) (entity : Entity) : Hop :=
  match entity.identifier with
  | .property name =>
      match entity.property name with
      | .ok property => snapshot.propertyHop entity property.type
      | .error error => .stop (.error (.lookup error))
  | .relationships type _ | .scalar type => .stop (.ok type.storage)
  | .void => .stop (.ok .integer64)

/-- Follows the identifier of an entity that the walk from `start` reaches after the entities of
the names visited, through at most `budget` entities more. -/
def walk (snapshot : Snapshot) (start : String) :
    Nat → List String → Entity → Except TypeError StorageType
  | 0, visited, entity =>
      if entity.name ∈ visited then .error (.identifierCycle start (visited ++ [entity.name]))
      else .error (.identifierTooDeep start)
  | budget + 1, visited, entity =>
      if entity.name ∈ visited then .error (.identifierCycle start (visited ++ [entity.name]))
      else match snapshot.hop entity with
        | .stop answer => answer
        | .follow target => snapshot.walk start budget (visited ++ [entity.name]) target

def identifierStorage (snapshot : Snapshot) (entity : Entity) : Except TypeError StorageType :=
  snapshot.walk entity.name longestChain [] entity

def storage (snapshot : Snapshot) : PropertyType → Except TypeError StorageType
  | .scalar type => .ok type.storage
  | .subtype name =>
      match snapshot.subtype name with
      | .ok subtype => .ok subtype.storage
      | .error error => .error (.lookup error)
  | .relationship ⟨_, .toMany⟩ | .array _ => .ok .binary
  | .relationship ⟨target, .toOne⟩ =>
      match snapshot.entity target with
      | .ok target => snapshot.identifierStorage target
      | .error error => .error (.lookup error)

end Snapshot

end SchemaHistory
