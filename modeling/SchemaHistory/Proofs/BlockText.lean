import SchemaHistory.Proofs.DrawnEntity
import SchemaHistory.Proofs.QuotedValues

/-!
The text of a block, tag by tag. A property has three tags if it refers to one record and otherwise one,
and one more if it is extra. There is a text when the entity is found, its identifier is resolved and
each property that is used has a storage type; otherwise the first of these that is missing is the
failure.
-/

namespace SchemaHistory

open Markup Traversal

set_option autoImplicit false

def Quoted.pairs (values : List Quoted) : String :=
  String.join (values.map fun value => pair value.key value.written)

/-- One tag on a line of its own: how it begins, its values in their order, and how it ends. -/
structure Tag where
  start : String
  values : List Quoted
  ending : String
  deriving DecidableEq

def Tag.text (tag : Tag) : String := tag.start ++ Quoted.pairs tag.values ++ tag.ending

/-- The value is there under this condition and no other. -/
def Quoted.given (condition : Prop) [Decidable condition] (value : Quoted) : List Quoted :=
  if condition then [value] else []

namespace Tag

def lines (tags : List Tag) : String := "\n".intercalate (tags.map text)

def ofAttribute (values : List Quoted) : Tag :=
  { start := "        <attribute", values, ending := "/>" }

def ofEntity (values : List Quoted) : Tag := { start := "    <entity", values, ending := ">" }

def entityEnd : Tag := { start := "    </entity>", values := [], ending := "" }

def bookkeeping (name : String) (storage : StorageType) (unboxed : List Quoted) (optional : String) :
    Tag :=
  ofAttribute ([.verbatim "name" name, .verbatim "attributeType" storage.name] ++ unboxed ++
    [.verbatim "syncable" "YES", .verbatim "optional" optional])

def reference (name : String) (storage : StorageType) (formerName : Option String) : Tag :=
  ofAttribute ([.verbatim "name" name, .verbatim "optional" "YES",
    .verbatim "attributeType" storage.name, .verbatim "syncable" "YES"] ++ quotedElementId formerName)

end Tag

def ScalarType.numbers : List ScalarType := [.bool, .int, .float, .double, .seconds, .milliseconds]

namespace Property

/-- The tag of a property that refers to no other entity, or to many records. -/
def valueTag (property : Property) (storage : StorageType) (mode : NamingMode) : Tag :=
  .ofAttribute ([.verbatim "name" ("_" ++ mode.propertyName property.name)] ++
    Quoted.given (property.isOptional ∨ property.isExtra) (.verbatim "optional" "YES") ++
    [.verbatim "attributeType" storage.name] ++
    Quoted.given (∃ scalar ∈ ScalarType.numbers, property.type = .scalar scalar)
      (.verbatim "usesScalarValueType" "YES") ++
    [.verbatim "syncable" "YES"] ++ quotedElementId (property.previousName.map ("_" ++ ·)) ++
    quotedDefault property.defaultValue)

def referenceTags (property : Property) (storage : StorageType) (mode : NamingMode) : List Tag :=
  let tag (start ending : String) (storage : StorageType) : Tag :=
    .reference (start ++ mode.propertyName property.name ++ ending) storage
      (property.previousName.map (start ++ · ++ ending))
  [tag "_" "" storage, tag "__" "" .string, tag "__" mode.typeUidEnding .string]

def flagTag (property : Property) (mode : NamingMode) : Tag :=
  .ofAttribute [.verbatim "name" ("__" ++ mode.propertyName property.name ++ mode.extraFlagEnding),
    .verbatim "optional" "NO", .verbatim "attributeType" "Integer 64",
    .verbatim "usesScalarValueType" "YES", .verbatim "syncable" "YES",
    .verbatim "defaultValueString" "0"]

def tags (property : Property) (storage : StorageType) (mode : NamingMode) : List Tag :=
  (match property.type with
    | .relationship ⟨_, .toOne⟩ => property.referenceTags storage mode
    | _ => [property.valueTag storage mode]) ++
  (if property.isExtra then [property.flagTag mode] else [])

end Property

namespace Entity

def bookkeepingTags (entity : Entity) (identifier : StorageType) (mode : NamingMode) : List Tag :=
  let unboxed : List Quoted := [.verbatim "usesScalarValueType" "YES"]
  [.bookkeeping "_identifier" identifier unboxed "YES",
    .bookkeeping "__identifier" (if entity.identifier = .void then .integer64 else .string) unboxed
      "YES",
    .bookkeeping mode.typeUid .string unboxed "YES"] ++
  (if entity.isRemote then [.bookkeeping mode.remoteState .string [] "YES"] else []) ++
  (if entity.readsRemotely then [.bookkeeping mode.lastRemoteRead .date [] "NO"] else [])

end Entity

/-- The tags of the block that is drawn from an entity with these storage types: of its identifier, and
of its used properties in their order. -/
def Shape.tags (shape : Shape) (entity : Entity) (identifier : StorageType)
    (storages : List StorageType) (mode : NamingMode) : List Tag :=
  [.ofEntity ([.verbatim "name" (entity.storeName shape.label),
      .verbatim "representedClassName" (entity.className shape.label), .verbatim "syncable" "YES",
      .verbatim "codeGenerationType" "class"] ++ quotedElementId shape.previousName)] ++
    entity.bookkeepingTags identifier mode ++
    (List.zipWith (fun property storage => property.tags storage mode) entity.usedProperties
      storages).flatten ++
    [.entityEnd]

section Written

variable {property : Property} {storage : StorageType} {mode : NamingMode}

theorem Quoted.pairs_append (values others : List Quoted) :
    Quoted.pairs (values ++ others) = Quoted.pairs values ++ Quoted.pairs others := by
  simp [Quoted.pairs]

theorem Quoted.pairs_verbatim (key text : String) :
    Quoted.pairs [.verbatim key text] = pair key text := by
  simp [Quoted.pairs, Quoted.verbatim]

theorem Optionality.pairs_early (optionality : Optionality) :
    Quoted.pairs optionality.quotedEarly = optionality.earlyPair := by
  cases optionality <;> simp [quotedEarly, earlyPair, Quoted.pairs, Quoted.verbatim]

theorem Optionality.pairs_late (optionality : Optionality) :
    Quoted.pairs optionality.quotedLate = optionality.latePair := by
  cases optionality <;> simp [quotedLate, latePair, Quoted.pairs, Quoted.verbatim]

theorem pairs_elementId (elementId : Option String) :
    Quoted.pairs (quotedElementId elementId) = elementIdPair elementId := by
  cases elementId <;> simp [quotedElementId, elementIdPair, Quoted.pairs, Quoted.escaped]

theorem pairs_default (defaultValue : Option DefaultValue) :
    Quoted.pairs (quotedDefault defaultValue) = (defaultValue.map DefaultValue.pair).getD "" := by
  cases defaultValue <;> simp [quotedDefault, DefaultValue.pair, Quoted.pairs, Quoted.escaped]

theorem Attribute.render_eq (column : Attribute) :
    column.render = (Tag.ofAttribute column.quoted).text := by
  have unboxed : Quoted.pairs
      (if column.isUnboxed then [.verbatim "usesScalarValueType" "YES"] else []) =
      if column.isUnboxed then pair "usesScalarValueType" "YES" else "" := by
    cases column.isUnboxed <;> simp [Quoted.pairs, Quoted.verbatim]
  unfold render Tag.text Tag.ofAttribute quoted
  simp only [Quoted.pairs_append, Quoted.pairs_verbatim, Optionality.pairs_early,
    Optionality.pairs_late, pairs_elementId, pairs_default, unboxed, String.append_assoc]

theorem Block.opening_eq (block : Block) :
    block.opening = (Tag.ofEntity block.quotedOpening).text := by
  unfold opening Tag.text Tag.ofEntity quotedOpening
  simp only [Quoted.pairs_append, Quoted.pairs_verbatim, pairs_elementId, String.append_assoc]

def Attribute.tag (column : Attribute) : Tag := .ofAttribute column.quoted

theorem Block.render_eq (block : Block) :
    block.render = Tag.lines
      ([.ofEntity block.quotedOpening] ++ block.attributes.map Attribute.tag ++ [.entityEnd]) := by
  have attributes : block.attributes.map Attribute.render =
      (block.attributes.map Attribute.tag).map Tag.text := by
    rw [List.map_map]
    exact List.map_congr_left fun column _ => column.render_eq
  have ending : closing = Tag.entityEnd.text := rfl
  unfold render Tag.lines
  rw [attributes, block.opening_eq, ending]
  simp

theorem PropertyType.isUnboxed_iff {type : PropertyType} :
    type.isUnboxed ↔ ∃ scalar ∈ ScalarType.numbers, type = .scalar scalar := by
  cases type with
  | scalar scalar => cases scalar <;> decide
  | array element => simp [isUnboxed]
  | subtype name => simp [isUnboxed]
  | relationship target => simp [isUnboxed]

theorem Property.tag_valueAttribute :
    (property.valueAttribute storage mode).tag = property.valueTag storage mode := by
  have early : (property.valueAttribute storage mode).optionality.quotedEarly =
      Quoted.given (property.isOptional ∨ property.isExtra) (.verbatim "optional" "YES") := by
    unfold valueAttribute Quoted.given
    cases property.isOptional <;> cases property.isExtra <;> rfl
  have late : (property.valueAttribute storage mode).optionality.quotedLate = [] := by
    unfold valueAttribute
    cases property.isOptional <;> cases property.isExtra <;> rfl
  unfold Attribute.tag Attribute.quoted valueTag
  rw [early, late]
  simp only [Quoted.given, ← PropertyType.isUnboxed_iff, List.append_nil]
  rfl

theorem Attribute.tag_reference (name : String) (formerName : Option String) :
    ({ name, storage, optionality := .said true, elementId := formerName } : Attribute).tag =
      .reference name storage formerName := by
  unfold tag quoted Tag.reference
  simp [Optionality.quotedEarly, Optionality.quotedLate, quotedDefault, yesNo]

theorem Property.tags_referenceAttributes :
    (property.referenceAttributes storage mode).map Attribute.tag =
      property.referenceTags storage mode := by
  unfold referenceAttributes referenceTags
  simp only [List.map_cons, List.map_nil, String.append_empty, Attribute.tag_reference]

theorem Property.tags_attributes :
    (property.attributes storage mode).map Attribute.tag = property.tags storage mode := by
  have flags : (if property.isExtra then [property.extraFlag mode] else []).map Attribute.tag =
      if property.isExtra then [property.flagTag mode] else [] := by
    cases property.isExtra <;> rfl
  unfold attributes tags isSingular PropertyType.isToOne
  rw [List.map_append, flags]
  cases property.type with
  | scalar type => exact congrArg ([·] ++ _) tag_valueAttribute
  | array element => exact congrArg ([·] ++ _) tag_valueAttribute
  | subtype name => exact congrArg ([·] ++ _) tag_valueAttribute
  | relationship relationship =>
      rcases relationship with ⟨target, association⟩
      cases association with
      | toMany => exact congrArg ([·] ++ _) tag_valueAttribute
      | toOne => exact congrArg (· ++ _) tags_referenceAttributes

theorem Entity.tags_bookkeeping {entity : Entity} {identifier : StorageType} :
    (entity.bookkeeping identifier mode).map Attribute.tag =
      entity.bookkeepingTags identifier mode := by
  have isVoid : entity.identifier.isVoid = true ↔ entity.identifier = .void := by
    cases entity.identifier <;> simp [Identifier.isVoid]
  unfold bookkeeping bookkeepingTags
  simp only [isVoid]
  cases entity.isRemote <;> cases entity.readsRemotely <;> rfl

end Written

namespace Shape

variable {shape : Shape} {formerName : Option String} {mode : NamingMode} {entity : Entity}

/-- The storage types are those of the properties, each in its place. -/
def HasTypes (shape : Shape) (properties : List Property) (storages : List StorageType) : Prop :=
  List.Forall₂ (fun property storage => shape.snapshot.storage property.type = .ok storage) properties
    storages

/-- What the text of a shape comes to. -/
inductive Prints (shape : Shape) (formerName : Option String) (mode : NamingMode) :
    Except CompileError String → Prop where
  | unknown (missing : ∀ entity, ¬shape.Finds formerName entity) :
      Prints shape formerName mode
        (.error (.entity shape.entityName shape.label (.lookup (.unknownEntity shape.entityName))))
  | unidentified {entity : Entity} {source : TypeError} (found : shape.Finds formerName entity)
      (unresolved : shape.snapshot.identifierStorage entity = .error source) :
      Prints shape formerName mode (.error (.entity entity.name shape.label source))
  | untyped {entity : Entity} {identifier : StorageType} {before after : List Property}
      {property : Property} {source : TypeError} (found : shape.Finds formerName entity)
      (resolved : shape.snapshot.identifierStorage entity = .ok identifier)
      (used : entity.usedProperties = before ++ property :: after)
      (typedBefore : ∀ earlier ∈ before, ∃ storage, shape.snapshot.storage earlier.type = .ok storage)
      (untyped : shape.snapshot.storage property.type = .error source) :
      Prints shape formerName mode (.error (.property entity.name property.name shape.label source))
  | text {entity : Entity} {identifier : StorageType} {storages : List StorageType}
      (found : shape.Finds formerName entity)
      (resolved : shape.snapshot.identifierStorage entity = .ok identifier)
      (typed : shape.HasTypes entity.usedProperties storages) :
      Prints shape formerName mode (.ok (Tag.lines (shape.tags entity identifier storages mode)))

theorem typed_iff {property : Property} :
    (∃ group, shape.propertyAttributes entity mode property = .ok group) ↔
      ∃ storage, shape.snapshot.storage property.type = .ok storage := by
  simp [propertyAttributes_eq_ok]

theorem groups_iff {properties : List Property} {groups : List (List Attribute)} :
    List.Forall₂ (fun property group => shape.propertyAttributes entity mode property = .ok group)
        properties groups ↔
      ∃ storages, shape.HasTypes properties storages ∧
        groups = List.zipWith (fun property storage => property.attributes storage mode) properties
          storages := by
  constructor
  · intro grouped
    induction grouped with
    | nil => exact ⟨[], .nil, rfl⟩
    | cons hasGroup _ ih =>
        rcases propertyAttributes_eq_ok.1 hasGroup with ⟨storage, isStorage, rfl⟩
        rcases ih with ⟨storages, typed, rfl⟩
        exact ⟨storage :: storages, .cons isStorage typed, rfl⟩
  · intro typed
    rcases typed with ⟨storages, typed, rfl⟩
    induction typed with
    | nil => exact .nil
    | cons isStorage _ ih => exact .cons (propertyAttributes_eq_ok.2 ⟨_, isStorage, rfl⟩) ih

/-- The block that is drawn from an entity with these storage types. -/
def blockOf (shape : Shape) (entity : Entity) (identifier : StorageType)
    (storages : List StorageType) (mode : NamingMode) : Block where
  storeName := entity.storeName shape.label
  className := entity.className shape.label
  elementId := shape.previousName
  attributes := entity.bookkeeping identifier mode ++
    (List.zipWith (fun property storage => property.attributes storage mode) entity.usedProperties
      storages).flatten

theorem render_blockOf (identifier : StorageType) (storages : List StorageType) :
    (shape.blockOf entity identifier storages mode).render =
      Tag.lines (shape.tags entity identifier storages mode) := by
  have opening : (shape.blockOf entity identifier storages mode).quotedOpening =
      [.verbatim "name" (entity.storeName shape.label),
        .verbatim "representedClassName" (entity.className shape.label), .verbatim "syncable" "YES",
        .verbatim "codeGenerationType" "class"] ++ quotedElementId shape.previousName := rfl
  rw [Block.render_eq, opening]
  unfold blockOf Shape.tags
  simp only [List.map_append, List.map_flatten, List.map_zipWith, Entity.tags_bookkeeping,
    Property.tags_attributes, List.append_assoc]

theorem drawn_iff {block : Block} :
    shape.block formerName mode = .ok block ↔
      ∃ entity identifier storages, shape.Finds formerName entity ∧
        shape.snapshot.identifierStorage entity = .ok identifier ∧
        shape.HasTypes entity.usedProperties storages ∧
        block = shape.blockOf entity identifier storages mode := by
  rw [block_eq_ok]
  constructor
  · intro drawn
    rcases drawn with ⟨entity, identifier, groups, found, resolved, grouped, rfl⟩
    rcases groups_iff.1 grouped with ⟨storages, typed, rfl⟩
    exact ⟨entity, identifier, storages, finds_iff.2 found, identifierStorage_eq_ok.1 resolved, typed,
      rfl⟩
  · intro drawn
    rcases drawn with ⟨entity, identifier, storages, found, resolved, typed, rfl⟩
    exact ⟨entity, identifier, _, finds_iff.1 found, identifierStorage_eq_ok.2 resolved,
      groups_iff.2 ⟨storages, typed, rfl⟩, rfl⟩

theorem prints_text (shape : Shape) (formerName : Option String) (mode : NamingMode) :
    shape.Prints formerName mode ((shape.block formerName mode).map Block.render) := by
  cases drawn : shape.block formerName mode with
  | ok block =>
      rcases drawn_iff.1 drawn with ⟨entity, identifier, storages, found, resolved, typed, rfl⟩
      have text : shape.Prints formerName mode
          (.ok (Tag.lines (shape.tags entity identifier storages mode))) :=
        .text found resolved typed
      rw [← render_blockOf] at text
      exact text
  | error error =>
      rcases block_eq_error.1 drawn with
        missing | ⟨entity, found, unresolved | ⟨identifier, resolved, failure⟩⟩
      · rcases finds_none_iff.1 missing with ⟨notFound, rfl⟩
        exact .unknown notFound
      · rcases identifierStorage_eq_error.1 unresolved with ⟨source, isSource, rfl⟩
        exact .unidentified (finds_iff.2 found) isSource
      · rcases failure with ⟨before, property, after, used, typedBefore, fails⟩
        rcases propertyAttributes_eq_error.1 fails with ⟨source, isSource, rfl⟩
        apply Prints.untyped (finds_iff.2 found) (identifierStorage_eq_ok.1 resolved) used _ isSource
        intro earlier member
        exact typed_iff.1 (typedBefore earlier member)

end Shape

namespace Cinema

end Cinema

end SchemaHistory
