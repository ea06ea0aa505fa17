import SchemaHistory.Instant.Basic
import SchemaHistory.Schema.Scalar

/-!
Properties of entities: their types, flags and default values.
-/

namespace SchemaHistory

set_option autoImplicit false

inductive DefaultValue where
  | bool (value : Bool)
  | float (value : Float)
  | int (value : Int64)
  | text (value : String)
  | date (value : Instant)
  | enumCase (name : String)
  /-- The moment at which a record is made. -/
  | currentDate
  | nil
  deriving BEq

def DefaultValue.isDate : DefaultValue → Bool
  | .date _ | .currentDate => true
  | _ => false

inductive Association where
  | toOne | toMany
  deriving DecidableEq

namespace Association

def all : List Association := [.toOne, .toMany]

def name : Association → String
  | .toOne => "ToOne"
  | .toMany => "ToMany"

instance : Inhabited Association := ⟨.toOne⟩

end Association

structure Relationship where
  entityName : String
  association : Association := default
  deriving DecidableEq

inductive PropertyType where
  | scalar (type : ScalarType)
  | array (element : PropertyType)
  | subtype (name : String)
  | relationship (target : Relationship)
  deriving DecidableEq

namespace PropertyType

def toOne (entityName : String) : PropertyType := .relationship ⟨entityName, .toOne⟩

def toMany (entityName : String) : PropertyType := .relationship ⟨entityName, .toMany⟩

def isUnboxed : PropertyType → Bool
  | .scalar type => type.isUnboxed
  | _ => false

def isToOne : PropertyType → Bool
  | .relationship ⟨_, .toOne⟩ => true
  | _ => false

end PropertyType

structure Property where
  name : String
  type : PropertyType
  isOptional : Bool := false
  /-- Accompanied by a flag that says whether the value was given. -/
  isExtra : Bool := false
  /-- Kept in the description but stored no more. -/
  isUnused : Bool := false
  previousName : Option String := none
  defaultValue : Option DefaultValue := none
  deriving BEq

def Property.isSingular (property : Property) : Bool := property.type.isToOne

end SchemaHistory
