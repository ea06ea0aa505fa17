import SchemaHistory.Proofs.JsonMembers
import SchemaHistory.Proofs.VersionText
import SchemaHistory.Schema.Codec.Snapshot

/-!
What a snapshot is made of is read back as it was written, each part through the parts that it holds.
Defaults that are numbers with a fraction or dates are left out: not each of them has a text from which
it is read again.
-/

namespace SchemaHistory

set_option autoImplicit false

open Json

theorem ScalarType.decode?_encode (type : ScalarType) : decode? type.encode = some type := by
  cases type <;> rfl

theorem Association.decode?_encode (association : Association) :
    decode? association.encode = some association := by
  cases association <;> rfl

theorem Relationship.decode?_encode (relationship : Relationship) :
    decode? relationship.encode = some relationship := by
  have association : relationship.encode.orDefault? "association" Association.decode? default =
      some relationship.association :=
    orDefault?_of_get? rfl (Association.decode?_encode relationship.association)
  unfold decode?
  rw [association]
  rfl

theorem PropertyType.decode?_encode (type : PropertyType) : decode? type.encode = some type := by
  induction type with
  | scalar type => simp [encode, decode?, ScalarType.decode?_encode]
  | array element ih => simp [encode, decode?, ih]
  | subtype name => simp [encode, decode?, text?]
  | relationship target => simp [encode, decode?, Relationship.decode?_encode]

theorem Version.decode?_encode (version : Version) : decode? version.encode = some version := by
  rw [decode?, encode, text?, Option.bind_some, parse?_dotted]

theorem Identifier.decode?_encode (identifier : Identifier) :
    decode? identifier.encode = some identifier := by
  cases identifier with
  | property name => rfl
  | relationships type entities =>
      simp [encode, decode?, alternative?, required?, ScalarType.decode?_encode]
  | scalar type => simp [encode, decode?, alternative?, ScalarType.decode?_encode]
  | void => rfl

/-- Neither a number with a fraction nor a date. -/
def DefaultValue.isPlain : DefaultValue → Bool
  | .float _ | .date _ => false
  | _ => true

theorem DefaultValue.int?_toInt (value : Int64) : int? (.whole value.toInt) = some value := by
  have inRange : Int64.minValue.toInt ≤ value.toInt ∧ value.toInt ≤ Int64.maxValue.toInt :=
    ⟨value.le_toInt, value.toInt_le⟩
  rw [int?, if_pos inRange, Int64.ofInt_toInt]

theorem DefaultValue.decode?_encode {value : DefaultValue} (plain : value.isPlain = true) :
    decode? value.encode = some value := by
  cases value with
  | float value => cases plain
  | date value => cases plain
  | int value => simp [encode, decode?, alternative?, int?_toInt]
  | bool | text | enumCase | currentDate | nil => rfl

theorem DefaultValue.encode_ne_null (value : DefaultValue) : value.encode ≠ .null := by
  cases value <;> simp [encode]

theorem Property.decode?_encode {property : Property}
    (plain : ∀ value, property.defaultValue = some value → value.isPlain = true) :
    decode? property.encode = some property := by
  have type : property.encode.required? "property_type" PropertyType.decode? = some property.type :=
    required?_of_get? rfl (PropertyType.decode?_encode property.type)
  have isOptional : property.encode.orDefault? "optional" bool? false = some property.isOptional :=
    orDefault?_flag (by simp [encode])
  have isExtra : property.encode.orDefault? "extra" bool? false = some property.isExtra :=
    orDefault?_flag (by simp [encode])
  have isUnused : property.encode.orDefault? "unused" bool? false = some property.isUnused :=
    orDefault?_flag (by simp [encode])
  have previousName :
      property.encode.optional? "previous_name" text? = some property.previousName :=
    optional?_given text (by simp [encode]) (by simp)
      fun _ _ => rfl
  have defaultValue :
      property.encode.optional? "default_value" DefaultValue.decode? = some property.defaultValue :=
    optional?_given DefaultValue.encode (by simp [encode])
      DefaultValue.encode_ne_null fun value given => DefaultValue.decode?_encode (plain value given)
  unfold decode?
  rw [type, isOptional, isExtra, isUnused, previousName, defaultValue]
  rfl

theorem Field.decode?_encode (field : Field) : decode? field.encode = some field := by
  have type : field.encode.required? "property_type" PropertyType.decode? = some field.type :=
    required?_of_get? rfl (PropertyType.decode?_encode field.type)
  have isOptional : field.encode.orDefault? "optional" bool? false = some field.isOptional :=
    orDefault?_flag (by simp [encode])
  unfold decode?
  rw [type, isOptional]
  rfl

theorem SubtypeItems.decode?_encode (items : SubtypeItems) : decode? items.encode = some items := by
  cases items with
  | cases names => simp [encode, decode?, alternative?]
  | options names => simp [encode, decode?, alternative?]
  | properties fields =>
      have read : list? Field.decode? (.array (fields.map Field.encode)) = some fields :=
        list?_array fun field _ => Field.decode?_encode field
      simp [encode, decode?, alternative?, read]

theorem SubtypeDefinition.decode?_encode (subtype : SubtypeDefinition) :
    decode? subtype.encode = some subtype := by
  have items : subtype.encode.required? "items" SubtypeItems.decode? = some subtype.items :=
    required?_of_get? rfl (SubtypeItems.decode?_encode subtype.items)
  unfold decode?
  rw [items]
  rfl

theorem Entity.decodeMapping?_encodeMapping (version : Version) :
    decodeMapping? (encodeMapping version) = some version :=
  required?_of_get? rfl (Version.decode?_encode version)

/-- A history of mappings that is there but empty is written, and one that is not there is not. -/
theorem Entity.mappings_of_encode (entity : Entity) :
    entity.encode.optional? "model_mapping_history" (list? decodeMapping?) =
      some entity.mappings := by
  apply optional?_given fun versions => .array (versions.map encodeMapping)
  · simp [encode]
  · intro versions isNull
    cases isNull
  · intro versions _
    exact list?_array fun version _ => decodeMapping?_encodeMapping version

theorem Entity.decode?_encode {entity : Entity}
    (plain : ∀ property ∈ entity.properties, ∀ value, property.defaultValue = some value →
      value.isPlain = true) :
    decode? entity.encode = some entity := by
  have isPersisted : entity.encode.orDefault? "persist" bool? false = some entity.isPersisted :=
    orDefault?_flag (by simp [encode])
  have isRemote : entity.encode.orDefault? "remote" bool? false = some entity.isRemote :=
    orDefault?_flag (by simp [encode])
  have readsRemotely :
      entity.encode.orDefault? "last_remote_read" bool? false = some entity.readsRemotely :=
    orDefault?_flag (by simp [encode])
  have identifier :
      entity.encode.orDefault? "identifier" Identifier.decode? default = some entity.identifier :=
    orDefault?_of_get? (by simp [encode]) (Identifier.decode?_encode entity.identifier)
  have addedAt :
      entity.encode.optional? "added_at_version" Version.decode? = some entity.addedAt :=
    optional?_given Version.encode (by simp [encode]) (by simp [Version.encode])
      fun version _ => Version.decode?_encode version
  have previousName : entity.encode.optional? "previous_name" text? = some entity.previousName :=
    optional?_given text (by simp [encode]) (by simp) fun _ _ => rfl
  have properties :
      entity.encode.orDefault? "properties" (list? Property.decode?) [] = some entity.properties :=
    orDefault?_list Property.encode (by simp [encode])
      fun property member => Property.decode?_encode (plain property member)
  unfold decode?
  rw [isPersisted, isRemote, readsRemotely, identifier, addedAt, previousName,
    mappings_of_encode, properties]
  rfl

def Snapshot.defaultValues (snapshot : Snapshot) : List DefaultValue :=
  snapshot.entities.flatMap fun entity => entity.properties.filterMap (·.defaultValue)

theorem Snapshot.decode?_encode {snapshot : Snapshot}
    (plain : ∀ value ∈ snapshot.defaultValues, value.isPlain = true) :
    decode? snapshot.encode = some snapshot := by
  have plainOf : ∀ entity ∈ snapshot.entities, ∀ property ∈ entity.properties, ∀ value,
      property.defaultValue = some value → value.isPlain = true := by
    intro entity isEntity property isProperty value given
    exact plain value (List.mem_flatMap.2
      ⟨entity, isEntity, List.mem_filterMap.2 ⟨property, isProperty, given⟩⟩)
  have entities :
      snapshot.encode.orDefault? "entities" (list? Entity.decode?) [] = some snapshot.entities :=
    orDefault?_of_get? (by simp [encode])
      (list?_array fun entity member => Entity.decode?_encode (plainOf entity member))
  have subtypes :
      snapshot.encode.orDefault? "subtypes" (list? SubtypeDefinition.decode?) [] =
        some snapshot.subtypes :=
    orDefault?_of_get? (by simp [encode])
      (list?_array fun subtype _ => SubtypeDefinition.decode?_encode subtype)
  unfold decode?
  rw [entities, subtypes]
  rfl

end SchemaHistory
