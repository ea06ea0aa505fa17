import SchemaHistory.Text.Case

/-!
The scalar types a schema may use, and the types in which a store keeps attributes.
-/

namespace SchemaHistory

set_option autoImplicit false

inductive StorageType where
  | string | integer64 | double | float | date | binary
  deriving DecidableEq

def StorageType.name : StorageType → String
  | .string => "String"
  | .integer64 => "Integer 64"
  | .double => "Double"
  | .float => "Float"
  | .date => "Date"
  | .binary => "Binary"

inductive ScalarType where
  | bool | color | date | double | float | int | milliseconds | seconds | string | url
  deriving DecidableEq

namespace ScalarType

def all : List ScalarType :=
  [.bool, .color, .date, .double, .float, .int, .milliseconds, .seconds, .string, .url]

def name : ScalarType → String
  | .bool => "Bool"
  | .color => "Color"
  | .date => "Date"
  | .double => "Double"
  | .float => "Float"
  | .int => "Int"
  | .milliseconds => "Milliseconds"
  | .seconds => "Seconds"
  | .string => "String"
  | .url => "Url"

def storage : ScalarType → StorageType
  | .string | .url | .color => .string
  | .int | .bool => .integer64
  | .double | .seconds | .milliseconds => .double
  | .float => .float
  | .date => .date

def isUnboxed : ScalarType → Bool
  | .int | .bool | .double | .float | .seconds | .milliseconds => true
  | .color | .date | .string | .url => false

inductive NameError where
  | unknownName
  deriving DecidableEq

def NameError.message : NameError → String
  | .unknownName => "Invalid \x60ScalarType\x60 string representation"

def ofName (name : String) : Except NameError ScalarType :=
  match all.find? fun type => Text.lower name.toList = Text.lower type.name.toList with
  | some type => .ok type
  | none => .error .unknownName

end ScalarType

end SchemaHistory
