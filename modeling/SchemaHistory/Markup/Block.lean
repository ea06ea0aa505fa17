import SchemaHistory.Markup.Attribute
import SchemaHistory.Naming
import SchemaHistory.Shape

/-!
The block of a stored shape: the names under which it is stored, its bookkeeping attributes, and the
attributes of its properties.
-/

namespace SchemaHistory

set_option autoImplicit false

structure Block where
  storeName : String
  className : String
  elementId : Option String
  attributes : List Attribute

namespace Block

open Markup

def opening (block : Block) : String :=
  "    <entity" ++ pair "name" block.storeName ++ pair "representedClassName" block.className ++
    pair "syncable" "YES" ++ pair "codeGenerationType" "class" ++
    elementIdPair block.elementId ++ ">"

def closing : String := "    </entity>"

def render (block : Block) : String :=
  "\n".intercalate (block.opening :: block.attributes.map Attribute.render ++ [closing])

end Block

/-- The attributes that every record of an entity has besides its properties. -/
def Entity.bookkeeping (entity : Entity) (identifier : StorageType) (mode : NamingMode) :
    List Attribute :=
  [{ name := "_identifier", storage := identifier, optionality := .saidLast true
     isUnboxed := true },
   { name := "__identifier"
     storage := if entity.identifier.isVoid then .integer64 else .string
     optionality := .saidLast true, isUnboxed := true },
   { name := mode.typeUid, storage := .string, optionality := .saidLast true
     isUnboxed := true }] ++
  (if entity.isRemote then
    [{ name := mode.remoteState, storage := .string, optionality := .saidLast true }]
  else []) ++
  (if entity.readsRemotely then
    [{ name := mode.lastRemoteRead, storage := .date, optionality := .saidLast false }]
  else [])

namespace Property

/-- A reference to one record is kept in three attributes: the identifier of the record, the name of
its type, and what tells its type apart. -/
def referenceAttributes (property : Property) (storage : StorageType) (mode : NamingMode) :
    List Attribute :=
  let name := mode.propertyName property.name
  [{ name := "_" ++ name, storage, optionality := .said true
     elementId := property.previousName.map ("_" ++ ·) },
   { name := "__" ++ name, storage := .string, optionality := .said true
     elementId := property.previousName.map ("__" ++ ·) },
   { name := "__" ++ name ++ mode.typeUidEnding, storage := .string, optionality := .said true
     elementId := property.previousName.map fun previous =>
       "__" ++ previous ++ mode.typeUidEnding }]

def valueAttribute (property : Property) (storage : StorageType) (mode : NamingMode) :
    Attribute :=
  { name := "_" ++ mode.propertyName property.name
    storage
    optionality := if property.isOptional || property.isExtra then .said true else .unsaid
    isUnboxed := property.type.isUnboxed
    elementId := property.previousName.map ("_" ++ ·)
    defaultValue := property.defaultValue }

def extraFlag (property : Property) (mode : NamingMode) : Attribute :=
  { name := "__" ++ mode.propertyName property.name ++ mode.extraFlagEnding
    storage := ScalarType.bool.storage
    optionality := .said false
    isUnboxed := true
    defaultValue := some (.bool false) }

def attributes (property : Property) (storage : StorageType) (mode : NamingMode) :
    List Attribute :=
  (if property.isSingular then property.referenceAttributes storage mode
    else [property.valueAttribute storage mode]) ++
  (if property.isExtra then [property.extraFlag mode] else [])

end Property

namespace Shape

/-- The entity that a shape is drawn from. A snapshot from before a change of name knows it
by the former name. -/
def entity (shape : Shape) (formerName : Option String) : Except CompileError Entity :=
  match shape.snapshot.entity shape.entityName with
  | .ok entity => .ok entity
  | .error error =>
      match formerName.bind fun name => (shape.snapshot.entity name).toOption with
      | some entity => .ok entity
      | none => .error (.entity shape.entityName shape.label (.lookup error))

def identifierStorage (shape : Shape) (entity : Entity) : Except CompileError StorageType :=
  (shape.snapshot.identifierStorage entity).mapError (.entity entity.name shape.label)

def propertyAttributes (shape : Shape) (entity : Entity) (mode : NamingMode) (property : Property) :
    Except CompileError (List Attribute) :=
  match shape.snapshot.storage property.type with
  | .ok storage => .ok (property.attributes storage mode)
  | .error error => .error (.property entity.name property.name shape.label error)

/-- The block of a shape. Its entity, the identifier of that, and the properties in their order have
to be known; the first that is not is the failure. -/
def block (shape : Shape) (formerName : Option String) (mode : NamingMode) :
    Except CompileError Block := do
  let entity ← shape.entity formerName
  let identifier ← shape.identifierStorage entity
  let attributes ← entity.usedProperties.mapM (shape.propertyAttributes entity mode)
  .ok { storeName := entity.storeName shape.label
        className := entity.className shape.label
        elementId := shape.previousName
        attributes := entity.bookkeeping identifier mode ++ attributes.flatten }

end Shape

end SchemaHistory
