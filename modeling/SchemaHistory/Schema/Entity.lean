import SchemaHistory.Schema.Property
import SchemaHistory.Text.Words
import SchemaHistory.Version.Basic

/-!
Entities: the kinds of records of a model. Of two properties with one name the earlier is found.
-/

namespace SchemaHistory

set_option autoImplicit false

inductive LookupError where
  | unknownEntity (name : String)
  | unknownProperty (entity property : String)
  | unknownSubtype (name : String)
  deriving DecidableEq

def LookupError.message : LookupError → String
  | .unknownEntity name => "unknown entity '" ++ name ++ "'"
  | .unknownProperty entity property =>
      "entity '" ++ entity ++ "' has no property '" ++ property ++ "'"
  | .unknownSubtype name => "unknown subtype '" ++ name ++ "'"

inductive Identifier where
  | property (name : String)
  | relationships (type : ScalarType) (entities : List String)
  | scalar (type : ScalarType)
  | void
  deriving DecidableEq

instance : Inhabited Identifier := ⟨.void⟩

def Identifier.isVoid : Identifier → Bool
  | .void => true
  | _ => false

structure Entity where
  name : String
  isPersisted : Bool := false
  isRemote : Bool := false
  readsRemotely : Bool := false
  identifier : Identifier := default
  addedAt : Option Version := none
  previousName : Option String := none
  /-- The versions at which the stored shape changed, as the author lists them. -/
  mappings : Option (List Version) := none
  properties : List Property := []
  deriving BEq

namespace Entity

def property (entity : Entity) (name : String) : Except LookupError Property :=
  match entity.properties.find? (·.name == name) with
  | some property => .ok property
  | none => .error (.unknownProperty entity.name name)

def usedProperties (entity : Entity) : List Property := entity.properties.filter (!·.isUnused)

def storeName (entity : Entity) (version : Version) : String :=
  .ofList (Text.pascalCase entity.name.toList) ++ "_" ++ version.underscored

def className (entity : Entity) (version : Version) : String :=
  "Managed" ++ entity.storeName version

def withPersistence (entity : Entity) (addedAt : Version) : Entity :=
  { entity with isPersisted := true, addedAt := some addedAt }

def withMapping (entity : Entity) (target : Version) : Entity :=
  { entity with mappings := some (entity.mappings.getD [] ++ [target]) }

def withProperty (entity : Entity) (property : Property) : Entity :=
  { entity with properties := entity.properties ++ [property] }

end Entity

end SchemaHistory
