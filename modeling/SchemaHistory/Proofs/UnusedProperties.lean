import SchemaHistory.Proofs.Compilation

/-!
Properties that are kept in the description only. An unused property is passed over when the attributes
of a shape are drawn, so its type is never resolved; it is still found where an identifier is the
property of its name. All other unused properties are idle: compilation goes the same way without them,
to the same document or the same failure, whatever else stands in them.
-/

namespace SchemaHistory

open Traversal

set_option autoImplicit false

namespace Entity

/-- The property is unused, and it is not the one that the identifier names. -/
def idles (entity : Entity) (property : Property) : Bool :=
  property.isUnused && decide (entity.identifier ≠ .property property.name)

def withoutIdle (entity : Entity) : Entity :=
  { entity with properties := entity.properties.filter (!entity.idles ·) }

end Entity

def Snapshot.withoutIdle (snapshot : Snapshot) : Snapshot where
  entities := snapshot.entities.map Entity.withoutIdle
  subtypes := snapshot.subtypes

/-- The catalog in which all properties that idle are left out. Two catalogs are the same without them
just when they differ in nothing but such properties. -/
def Catalog.withoutIdle (catalog : Catalog) : Catalog where
  snapshots := catalog.snapshots.map fun entry => (entry.1, entry.2.withoutIdle)
  checkpoints := catalog.checkpoints
  ascending := by
    unfold Ascending.Sorted
    rw [List.pairwise_map]
    exact catalog.ascending

def Hop.withoutIdle : Hop → Hop
  | .stop answer => .stop answer
  | .follow target => .follow target.withoutIdle

def Shape.withoutIdle (shape : Shape) : Shape := { shape with snapshot := shape.snapshot.withoutIdle }

namespace Entity

variable {entity : Entity}

theorem usedProperties_withoutIdle (entity : Entity) :
    entity.withoutIdle.usedProperties = entity.usedProperties := by
  unfold usedProperties withoutIdle
  rw [List.filter_filter]
  congr
  funext property
  cases unused : property.isUnused <;> simp [idles, unused]

theorem property_withoutIdle {name : String} (identifier : entity.identifier = .property name) :
    entity.withoutIdle.property name = entity.property name := by
  have sameFound : (entity.properties.filter (!entity.idles ·)).find? (·.name == name) =
      entity.properties.find? (·.name == name) := by
    rw [List.find?_filter]
    congr
    funext property
    by_cases named : property.name = name
    · simp [idles, identifier, named]
    · simp [named]
  unfold Entity.property
  rw [withoutIdle, sameFound]

end Entity

namespace Snapshot

theorem entity_withoutIdle (snapshot : Snapshot) (name : String) :
    snapshot.withoutIdle.entity name = (snapshot.entity name).map Entity.withoutIdle := by
  have sameNames : (fun entity : Entity => entity.name == name) ∘ Entity.withoutIdle =
      fun entity => entity.name == name := rfl
  unfold Snapshot.entity
  rw [withoutIdle, List.find?_map, sameNames]
  cases snapshot.entities.find? (·.name == name) <;> rfl

theorem propertyHop_withoutIdle (snapshot : Snapshot) (entity : Entity) (type : PropertyType) :
    snapshot.withoutIdle.propertyHop entity.withoutIdle type =
      (snapshot.propertyHop entity type).withoutIdle := by
  cases type with
  | scalar type => rfl
  | array element => rfl
  | subtype name => rfl
  | relationship relationship =>
      obtain ⟨target, association⟩ := relationship
      cases association with
      | toMany => rfl
      | toOne =>
          simp only [propertyHop, entity_withoutIdle]
          cases snapshot.entity target <;> rfl

theorem hop_withoutIdle (snapshot : Snapshot) (entity : Entity) :
    snapshot.withoutIdle.hop entity.withoutIdle = (snapshot.hop entity).withoutIdle := by
  have sameIdentifier : entity.withoutIdle.identifier = entity.identifier := rfl
  unfold Snapshot.hop
  rw [sameIdentifier]
  cases identifier : entity.identifier with
  | void => rfl
  | scalar type => rfl
  | relationships type targets => rfl
  | property name =>
      simp only [Entity.property_withoutIdle identifier, propertyHop_withoutIdle]
      cases entity.property name <;> rfl

/-- An identifier is followed through the same names to the same end. -/
theorem walk_withoutIdle (snapshot : Snapshot) (start : String) (budget : Nat) (visited : List String)
    (entity : Entity) :
    snapshot.withoutIdle.walk start budget visited entity.withoutIdle =
      snapshot.walk start budget visited entity := by
  induction budget generalizing visited entity with
  | zero => rfl
  | succ budget ih =>
      have sameName : entity.withoutIdle.name = entity.name := rfl
      rw [walk, walk, hop_withoutIdle, sameName]
      cases snapshot.hop entity with
      | stop answer => rfl
      | follow target =>
          simp only [Hop.withoutIdle]
          rw [ih]

theorem identifierStorage_withoutIdle (snapshot : Snapshot) (entity : Entity) :
    snapshot.withoutIdle.identifierStorage entity.withoutIdle = snapshot.identifierStorage entity :=
  snapshot.walk_withoutIdle entity.name longestChain [] entity

theorem storage_withoutIdle (snapshot : Snapshot) (type : PropertyType) :
    snapshot.withoutIdle.storage type = snapshot.storage type := by
  cases type with
  | scalar type => rfl
  | array element => rfl
  | subtype name => rfl
  | relationship relationship =>
      obtain ⟨target, association⟩ := relationship
      cases association with
      | toMany => rfl
      | toOne =>
          simp only [storage, entity_withoutIdle]
          cases snapshot.entity target with
          | error error => rfl
          | ok entity => exact snapshot.identifierStorage_withoutIdle entity

end Snapshot

namespace Shape

theorem entity_withoutIdle (shape : Shape) (formerName : Option String) :
    shape.withoutIdle.entity formerName = (shape.entity formerName).map Entity.withoutIdle := by
  simp only [Shape.entity, Shape.withoutIdle, Snapshot.entity_withoutIdle]
  cases shape.snapshot.entity shape.entityName with
  | ok entity => rfl
  | error error =>
      cases formerName with
      | none => rfl
      | some name =>
          simp only [Option.bind_some, Except.map]
          cases shape.snapshot.entity name <;> rfl

theorem identifierStorage_withoutIdle (shape : Shape) (entity : Entity) :
    shape.withoutIdle.identifierStorage entity.withoutIdle = shape.identifierStorage entity := by
  have sameName : entity.withoutIdle.name = entity.name := rfl
  unfold Shape.identifierStorage
  rw [withoutIdle, Snapshot.identifierStorage_withoutIdle, sameName]

theorem propertyAttributes_withoutIdle (shape : Shape) (entity : Entity) (mode : NamingMode) :
    shape.withoutIdle.propertyAttributes entity.withoutIdle mode =
      shape.propertyAttributes entity mode := by
  have sameName : entity.withoutIdle.name = entity.name := rfl
  funext property
  unfold Shape.propertyAttributes
  rw [withoutIdle, Snapshot.storage_withoutIdle, sameName]

theorem block_withoutIdle (shape : Shape) (formerName : Option String) (mode : NamingMode) :
    shape.block formerName mode = shape.withoutIdle.block formerName mode := by
  unfold Shape.block
  rw [entity_withoutIdle]
  apply (Agree.of_map (shape.entity formerName) Entity.withoutIdle).bind_eq
  intro entity _ _ _ isWithout
  rw [isWithout, identifierStorage_withoutIdle, propertyAttributes_withoutIdle,
    Entity.usedProperties_withoutIdle]
  apply bind_eq_of_ok
  intro identifier _
  apply bind_eq_of_ok
  intro attributes _
  rfl

end Shape

namespace Catalog

variable {first second : Catalog} {config : Config} {current : Version}

theorem snapshotAt_withoutIdle (catalog : Catalog) (version : Version) :
    catalog.withoutIdle.snapshotAt version =
      (catalog.snapshotAt version).map Snapshot.withoutIdle := by
  have sameVersion : catalog.withoutIdle.snapshots.lookup version =
      (catalog.snapshots.lookup version).map Snapshot.withoutIdle :=
    lookup_map_entries Function.injective_id Snapshot.withoutIdle catalog.snapshots version
  unfold snapshotAt snapshot
  rw [sameVersion]
  cases catalog.snapshots.lookup version <;> rfl

theorem entityBlocks_withoutIdle (catalog : Catalog) (config : Config) (current : Version)
    (entity : Entity) :
    catalog.entityBlocks config current entity =
      catalog.withoutIdle.entityBlocks config current entity.withoutIdle := by
  have shapesAgree : Agree (List.Forall₂ fun shape other => other = shape.withoutIdle)
      (catalog.shapes entity current (catalog.checkpointsFor config))
      (catalog.withoutIdle.shapes entity current (catalog.checkpointsFor config)) := by
    apply shapes_agree
    · intro version
      rw [snapshotAt_withoutIdle]
      exact Agree.of_map (catalog.snapshotAt version) Snapshot.withoutIdle
    · intro shape snapshot isWithout
      rw [isWithout]
      rfl
  apply shapesAgree.bind_eq
  intro shapes others _ _ correspond
  apply mapM_congr_of_pairs _ correspond
  intro shape other isWithout
  rw [isWithout]
  exact shape.block_withoutIdle entity.previousName config.naming

/-- Where nothing is validated, compilation goes as if the idle properties were not there. -/
theorem compile_withoutIdle (catalog : Catalog) (current : Version)
    (unvalidated : config.validates = false) :
    catalog.compile config current = catalog.withoutIdle.compile config current := by
  apply compile_congr_of_pairs rfl
  · -- Validation does look at idle properties: it reports their names.
    unfold check
    rw [unvalidated]
    rfl
  · rw [snapshotAt_withoutIdle]
    apply (Agree.of_map (catalog.snapshotAt current) Snapshot.withoutIdle).imp
    intro snapshot _ _ _ isWithout
    have persisted : snapshot.withoutIdle.persisted = snapshot.persisted.map Entity.withoutIdle := by
      unfold Snapshot.persisted
      rw [Snapshot.withoutIdle, List.filter_map]
      rfl
    rw [isWithout, persisted, List.forall₂_map_right_iff, List.forall₂_same]
    intro entity _
    exact rfl
  · intro entity other isWithout
    rw [← isWithout, entityBlocks_withoutIdle]

/-- Two catalogs that differ only in idle properties are compiled to the same document, or fail with the
same error, when they are not validated. -/
theorem unused_properties_unobservable (first second : Catalog) (config : Config) (current : Version)
    (unvalidated : config.validates = false) (differInIdle : first.withoutIdle = second.withoutIdle) :
    first.compile config current = second.compile config current := by
  calc first.compile config current
      _ = first.withoutIdle.compile config current := first.compile_withoutIdle current unvalidated
      _ = second.withoutIdle.compile config current := by rw [differInIdle]
      _ = second.compile config current := (second.compile_withoutIdle current unvalidated).symm

end Catalog

namespace Cinema

/-- A film whose identifier is a code that is stored no more, in two versions of its description. In the
other one the studio is gone, the format is moved and rewritten, and there is a poster. -/
def code : Property := { name := "code", type := .scalar .int, isUnused := true }

def title : Property := { name := "title", type := .scalar .string }

def codedFilm (properties : List Property) : Entity :=
  { film with identifier := .property "code", properties }

def codedCatalog (properties : List Property) : Catalog where
  snapshots := [(⟨2, 0, 0⟩, { entities := [codedFilm properties] })]
  ascending := List.pairwise_singleton _ _

def earlyProperties : List Property :=
  [{ name := "studio", type := .toOne "Studio", isUnused := true }, title,
    { name := "format", type := .scalar .string, isUnused := true }, code]

def lateProperties : List Property :=
  [{ name := "format", type := .subtype "Format", isExtra := true, isUnused := true
     previousName := some "ratio", defaultValue := some (.enumCase "wide") },
    title, code, { name := "poster", type := .array (.scalar .url), isUnused := true }]

/-- The studio and the format of the other description are of no known type, and yet the same document
is made. Without the code, unused as it is, none can be made. -/
theorem coded_film_compilation :
    (codedCatalog earlyProperties).withoutIdle = (codedCatalog lateProperties).withoutIdle ∧
      (codedCatalog earlyProperties).compile { validates := false } ⟨2, 0, 0⟩ =
        (codedCatalog lateProperties).compile { validates := false } ⟨2, 0, 0⟩ ∧
      (∃ artifact,
        (codedCatalog lateProperties).compile { validates := false } ⟨2, 0, 0⟩ = .ok artifact) ∧
      (codedCatalog [title]).compile { validates := false } ⟨2, 0, 0⟩ =
        .error (.entity "Film" ⟨2, 0, 0⟩ (.lookup (.unknownProperty "Film" "code"))) := by
  have differInIdle :
      (codedCatalog earlyProperties).withoutIdle = (codedCatalog lateProperties).withoutIdle := rfl
  refine ⟨differInIdle, ?_, ⟨_, rfl⟩, rfl⟩
  exact Catalog.unused_properties_unobservable _ _ { validates := false } ⟨2, 0, 0⟩ rfl differInIdle

end Cinema

end SchemaHistory
