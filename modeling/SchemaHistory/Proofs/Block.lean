import SchemaHistory.Markup.Block
import SchemaHistory.Proofs.Lookup
import SchemaHistory.Proofs.Traversal

/-!
Drawing a shape goes on in three steps, each of which can fail: the entity is found, its identifier is
resolved, and then the types of its properties one after the other.
-/

namespace SchemaHistory

open Traversal

set_option autoImplicit false

/-- What the types of the model have against an entity or a property. -/
def CompileError.source? : CompileError → Option TypeError
  | .entity _ _ source | .property _ _ _ source => some source
  | _ => none

namespace Shape

variable {shape : Shape} {formerName : Option String} {mode : NamingMode} {entity : Entity}

/-- The snapshot has the entity under the present name, or under the former name if it has none under
the present. -/
inductive Finds (shape : Shape) (formerName : Option String) (entity : Entity) : Prop where
  | present (known : shape.snapshot.entity shape.entityName = .ok entity) :
      Finds shape formerName entity
  | former {name : String} (isFormer : formerName = some name)
      (renamed : ∀ other ∈ shape.snapshot.entities, other.name ≠ shape.entityName)
      (known : shape.snapshot.entity name = .ok entity) : Finds shape formerName entity

theorem finds_iff : shape.Finds formerName entity ↔ shape.entity formerName = .ok entity := by
  constructor
  · intro finds
    cases finds with
    | present known => simp [Shape.entity, known]
    | former isFormer renamed known =>
        have missing := Snapshot.entity_eq_error.2 ⟨rfl, renamed⟩
        simp [Shape.entity, missing, isFormer, known, Except.toOption]
  · intro found
    unfold Shape.entity at found
    split at found
    · rename_i candidate known
      obtain rfl := Except.ok.inj found
      exact .present known
    · rename_i unknown missing
      split at found
      · rename_i candidate known
        obtain rfl := Except.ok.inj found
        obtain ⟨name, isFormer, knownFormerly⟩ := Option.bind_eq_some_iff.1 known
        exact .former isFormer (Snapshot.entity_eq_error.1 missing).2
          (toOption_eq_some.1 knownFormerly)
      · simp at found

theorem mem_of_entity (found : shape.entity formerName = .ok entity) :
    entity ∈ shape.snapshot.entities := by
  cases finds_iff.2 found with
  | present known => exact Snapshot.mem_of_entity known
  | former _ _ known => exact Snapshot.mem_of_entity known

theorem entity_eq_error {error : CompileError} (fails : shape.entity formerName = .error error) :
    error = .entity shape.entityName shape.label (.lookup (.unknownEntity shape.entityName)) := by
  unfold Shape.entity at fails
  split at fails
  · simp at fails
  · rename_i unknown missing
    obtain ⟨rfl, -⟩ := Snapshot.entity_eq_error.1 missing
    split at fails
    · simp at fails
    · exact (Except.error.inj fails).symm

theorem finds_none_iff {error : CompileError} :
    shape.entity formerName = .error error ↔
      (∀ entity, ¬shape.Finds formerName entity) ∧
        error =
          .entity shape.entityName shape.label (.lookup (.unknownEntity shape.entityName)) := by
  simp only [finds_iff]
  constructor
  · intro fails
    exact ⟨by simp [fails], entity_eq_error fails⟩
  · intro missing
    rcases missing with ⟨notFound, rfl⟩
    cases found : shape.entity formerName with
    | ok entity => exact absurd found (notFound entity)
    | error error => rw [entity_eq_error found]

theorem identifierStorage_eq_ok {identifier : StorageType} :
    shape.identifierStorage entity = .ok identifier ↔
      shape.snapshot.identifierStorage entity = .ok identifier := by
  unfold Shape.identifierStorage
  cases shape.snapshot.identifierStorage entity <;> simp [Except.mapError]

theorem identifierStorage_eq_error {error : CompileError} :
    shape.identifierStorage entity = .error error ↔
      ∃ source, shape.snapshot.identifierStorage entity = .error source ∧
        error = .entity entity.name shape.label source := by
  unfold Shape.identifierStorage
  cases shape.snapshot.identifierStorage entity <;> simp [Except.mapError, eq_comm]

theorem propertyAttributes_eq_error {property : Property} {error : CompileError} :
    shape.propertyAttributes entity mode property = .error error ↔
      ∃ source, shape.snapshot.storage property.type = .error source ∧
        error = .property entity.name property.name shape.label source := by
  unfold Shape.propertyAttributes
  cases shape.snapshot.storage property.type <;> simp [eq_comm]

theorem block_eq_ok {block : Block} :
    shape.block formerName mode = .ok block ↔
      ∃ entity identifier attributes, shape.entity formerName = .ok entity ∧
        shape.identifierStorage entity = .ok identifier ∧
        List.Forall₂
          (fun property group => shape.propertyAttributes entity mode property = .ok group)
          entity.usedProperties attributes ∧
        block =
          { storeName := entity.storeName shape.label
            className := entity.className shape.label
            elementId := shape.previousName
            attributes := entity.bookkeeping identifier mode ++ attributes.flatten } := by
  simp only [Shape.block, bind_eq_ok, mapM_eq_ok, Except.ok.injEq]
  constructor
  · intro drawn
    rcases drawn with ⟨entity, found, identifier, resolved, attributes, typed, rfl⟩
    exact ⟨entity, identifier, attributes, found, resolved, typed, rfl⟩
  · intro holds
    rcases holds with ⟨entity, identifier, attributes, found, resolved, typed, rfl⟩
    exact ⟨entity, found, identifier, resolved, attributes, typed, rfl⟩

theorem block_eq_error {error : CompileError} :
    shape.block formerName mode = .error error ↔
      shape.entity formerName = .error error ∨
        ∃ entity, shape.entity formerName = .ok entity ∧
          (shape.identifierStorage entity = .error error ∨
            ∃ identifier, shape.identifierStorage entity = .ok identifier ∧
              FirstFailure (shape.propertyAttributes entity mode) entity.usedProperties error) := by
  simp [Shape.block, bind_eq_error, mapM_eq_error]

/-- The block of a shape is stored under a name that ends in the label of the shape. -/
theorem block_storeName {block : Block} (drawn : shape.block formerName mode = .ok block) :
    ∃ stem, block.storeName = stem ++ "_" ++ shape.label.underscored := by
  obtain ⟨entity, -, -, -, -, -, rfl⟩ := block_eq_ok.1 drawn
  exact ⟨.ofList (Text.pascalCase entity.name.toList), rfl⟩

theorem source_of_block_error {error : CompileError}
    (fails : shape.block formerName mode = .error error) :
    ∃ source, error.source? = some source ∧
      (source = .lookup (.unknownEntity shape.entityName) ∨
        ∃ entity ∈ shape.snapshot.entities,
          shape.snapshot.identifierStorage entity = .error source ∨
            ∃ property ∈ entity.usedProperties,
              shape.snapshot.storage property.type = .error source) := by
  rcases block_eq_error.1 fails with missing | ⟨entity, found, unresolved | ⟨-, -, untyped⟩⟩
  · obtain rfl := entity_eq_error missing
    exact ⟨_, rfl, Or.inl rfl⟩
  · obtain ⟨source, isSource, rfl⟩ := identifierStorage_eq_error.1 unresolved
    exact ⟨source, rfl, Or.inr ⟨entity, mem_of_entity found, Or.inl isSource⟩⟩
  · obtain ⟨property, member, failing⟩ := item_of_first_failure untyped
    obtain ⟨source, isSource, rfl⟩ := propertyAttributes_eq_error.1 failing
    exact ⟨source, rfl, Or.inr ⟨entity, mem_of_entity found, Or.inr ⟨property, member, isSource⟩⟩⟩

end Shape

end SchemaHistory
