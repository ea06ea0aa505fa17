import SchemaHistory.Instant.Parser
import SchemaHistory.Json.Basic
import SchemaHistory.Schema.Property

/-!
Properties and what they are made of as JSON values. Members with their default are left out in
writing, and unknown members are passed over in reading. A record is read from an object only: the other
form that a reader may know, an array of the values of its members in their order, is never written, and is
left out here.
-/

namespace SchemaHistory

set_option autoImplicit false

namespace ScalarType

def key : ScalarType → String
  | .bool => "bool"
  | .color => "color"
  | .date => "date"
  | .double => "double"
  | .float => "float"
  | .int => "int"
  | .milliseconds => "milliseconds"
  | .seconds => "seconds"
  | .string => "string"
  | .url => "url"

def encode (type : ScalarType) : Json := .text type.key

def decode? (json : Json) : Option ScalarType := json.choice? all key

end ScalarType

namespace Association

def key : Association → String
  | .toOne => "to_one"
  | .toMany => "to_many"

def encode (association : Association) : Json := .text association.key

def decode? (json : Json) : Option Association := json.choice? all key

end Association

namespace Relationship

def encode (relationship : Relationship) : Json :=
  .object [("entity_name", .text relationship.entityName),
    ("association", relationship.association.encode)]

def decode? (json : Json) : Option Relationship := do
  let entityName ← json.required? "entity_name" Json.text?
  let association ← json.orDefault? "association" Association.decode? default
  some { entityName, association }

end Relationship

namespace PropertyType

def encode : PropertyType → Json
  | .scalar type => .object [("scalar", type.encode)]
  | .array element => .object [("array", encode element)]
  | .subtype name => .object [("subtype", .text name)]
  | .relationship target => .object [("relationship", target.encode)]

def decode? : Json → Option PropertyType
  | .object [(name, content)] =>
      if name = "array" then (decode? content).map .array
      else if name = "scalar" then (ScalarType.decode? content).map .scalar
      else if name = "subtype" then content.text?.map .subtype
      else if name = "relationship" then (Relationship.decode? content).map .relationship
      else none
  | _ => none

end PropertyType

namespace DefaultValue

def float? : Json → Option Float
  | .whole value => some (.ofInt value)
  | .real value => some value
  | _ => none

def int? : Json → Option Int64
  | .whole value =>
      if Int64.minValue.toInt ≤ value ∧ value ≤ Int64.maxValue.toInt then some (.ofInt value) else none
  | _ => none

def encode : DefaultValue → Json
  | .bool value => .object [("bool", .bool value)]
  | .float value => .object [("float", .real value)]
  | .int value => .object [("int", .whole value.toInt)]
  | .text value => .object [("string", .text value)]
  | .date value => .object [("date", .text value.render)]
  | .enumCase name => .object [("enum_case", .text name)]
  | .currentDate => .text "current_date"
  | .nil => .text "nil"

def decode? (json : Json) : Option DefaultValue :=
  match json.alternative? with
  | some ("bool", content) => content.bool?.map .bool
  | some ("float", content) => (float? content).map .float
  | some ("int", content) => (int? content).map .int
  | some ("string", content) => content.text?.map .text
  | some ("date", content) => (content.text?.bind Instant.parse?).map .date
  | some ("enum_case", content) => content.text?.map .enumCase
  | some ("current_date", .null) => some .currentDate
  | some ("nil", .null) => some .nil
  | _ => none

end DefaultValue

namespace Property

def encode (property : Property) : Json :=
  .object <|
    [("name", .text property.name), ("property_type", property.type.encode)] ++
    Json.flag "optional" property.isOptional ++
    Json.flag "extra" property.isExtra ++
    Json.flag "unused" property.isUnused ++
    Json.given "previous_name" Json.text property.previousName ++
    Json.given "default_value" DefaultValue.encode property.defaultValue

def decode? (json : Json) : Option Property := do
  let name ← json.required? "name" Json.text?
  let type ← json.required? "property_type" PropertyType.decode?
  let isOptional ← json.orDefault? "optional" Json.bool? false
  let isExtra ← json.orDefault? "extra" Json.bool? false
  let isUnused ← json.orDefault? "unused" Json.bool? false
  let previousName ← json.optional? "previous_name" Json.text?
  let defaultValue ← json.optional? "default_value" DefaultValue.decode?
  some { name, type, isOptional, isExtra, isUnused, previousName, defaultValue }

end Property

end SchemaHistory
