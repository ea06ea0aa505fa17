import SchemaHistory.Schema.Codec.Property
import SchemaHistory.Schema.Snapshot
import SchemaHistory.Version.Parser

/-!
Entities, subtypes and snapshots as JSON values, each read from an object only and not from an array of
its values.
-/

namespace SchemaHistory

set_option autoImplicit false

namespace Version

def encode (version : Version) : Json := .text version.dotted

def decode? (json : Json) : Option Version := json.text?.bind parse?

end Version

namespace Identifier

def encode : Identifier → Json
  | .property name => .object [("property", .text name)]
  | .relationships type entities =>
      .object [("relationships",
        .object [("scalar_type", type.encode), ("entities", Json.textArray entities)])]
  | .scalar type => .object [("scalar_type", type.encode)]
  | .void => .text "void"

def decode? (json : Json) : Option Identifier :=
  match json.alternative? with
  | some ("property", content) => content.text?.map .property
  | some ("relationships", content) => do
      let type ← content.required? "scalar_type" ScalarType.decode?
      let entities ← content.required? "entities" (Json.list? Json.text?)
      some (.relationships type entities)
  | some ("scalar_type", content) => (ScalarType.decode? content).map .scalar
  | some ("void", .null) => some .void
  | _ => none

end Identifier

namespace Entity

/-- A change of the stored shape is an object that names the version it leads to. -/
def encodeMapping (version : Version) : Json := .object [("to", version.encode)]

def decodeMapping? (json : Json) : Option Version := json.required? "to" Version.decode?

def encode (entity : Entity) : Json :=
  .object <|
    [("name", .text entity.name)] ++
    Json.flag "persist" entity.isPersisted ++
    Json.flag "remote" entity.isRemote ++
    Json.flag "last_remote_read" entity.readsRemotely ++
    [("identifier", entity.identifier.encode)] ++
    Json.given "added_at_version" Version.encode entity.addedAt ++
    Json.given "previous_name" Json.text entity.previousName ++
    Json.given "model_mapping_history" (fun versions => .array (versions.map encodeMapping))
      entity.mappings ++
    if entity.properties = [] then [] else
      [("properties", .array (entity.properties.map Property.encode))]

def decode? (json : Json) : Option Entity := do
  let name ← json.required? "name" Json.text?
  let isPersisted ← json.orDefault? "persist" Json.bool? false
  let isRemote ← json.orDefault? "remote" Json.bool? false
  let readsRemotely ← json.orDefault? "last_remote_read" Json.bool? false
  let identifier ← json.orDefault? "identifier" Identifier.decode? default
  let addedAt ← json.optional? "added_at_version" Version.decode?
  let previousName ← json.optional? "previous_name" Json.text?
  let mappings ← json.optional? "model_mapping_history" (Json.list? decodeMapping?)
  let properties ← json.orDefault? "properties" (Json.list? Property.decode?) []
  some { name, isPersisted, isRemote, readsRemotely, identifier, addedAt, previousName, mappings,
         properties }

end Entity

namespace Field

def encode (field : Field) : Json :=
  .object <|
    [("name", .text field.name), ("property_type", field.type.encode)] ++
    Json.flag "optional" field.isOptional

def decode? (json : Json) : Option Field := do
  let name ← json.required? "name" Json.text?
  let type ← json.required? "property_type" PropertyType.decode?
  let isOptional ← json.orDefault? "optional" Json.bool? false
  some { name, type, isOptional }

end Field

namespace SubtypeItems

def encode : SubtypeItems → Json
  | .cases names => .object [("cases", Json.textArray names)]
  | .options names => .object [("options", Json.textArray names)]
  | .properties fields => .object [("properties", .array (fields.map Field.encode))]

def decode? (json : Json) : Option SubtypeItems :=
  match json.alternative? with
  | some ("cases", content) => (content.list? Json.text?).map .cases
  | some ("options", content) => (content.list? Json.text?).map .options
  | some ("properties", content) => (content.list? Field.decode?).map .properties
  | _ => none

end SubtypeItems

namespace SubtypeDefinition

def encode (subtype : SubtypeDefinition) : Json :=
  .object [("name", .text subtype.name), ("items", subtype.items.encode)]

def decode? (json : Json) : Option SubtypeDefinition := do
  let name ← json.required? "name" Json.text?
  let items ← json.required? "items" SubtypeItems.decode?
  some { name, items }

end SubtypeDefinition

namespace Snapshot

def encode (snapshot : Snapshot) : Json :=
  .object [("entities", .array (snapshot.entities.map Entity.encode)),
    ("subtypes", .array (snapshot.subtypes.map SubtypeDefinition.encode))]

def decode? (json : Json) : Option Snapshot :=
  if json.isObject then do
    let entities ← json.orDefault? "entities" (Json.list? Entity.decode?) []
    let subtypes ← json.orDefault? "subtypes" (Json.list? SubtypeDefinition.decode?) []
    some { entities, subtypes }
  else none

end Snapshot

end SchemaHistory
