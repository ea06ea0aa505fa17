import SchemaHistory.Proofs.Compilation
import SchemaHistory.Proofs.IdentifierChain
import SchemaHistory.Proofs.Soundness

/-!
What the rules of a sound catalog spare its compilation. Every identifier is a property of its own
entity, in each snapshot, so a chain of identifiers never ends at a property that is missing. Every
persisted entity has the version that added it and every checkpoint a snapshot, so a snapshot can only
be missing for the current version or for one that added an entity.
-/

namespace SchemaHistory

open Traversal

set_option autoImplicit false

namespace Snapshot

variable {snapshot : Snapshot} {entity : Entity} {error : TypeError}

theorem Stops.knows_property (sound : entity.Sound) (stops : snapshot.Stops entity (.error error))
    (owner name : String) : error ≠ .lookup (.unknownProperty owner name) := by
  cases stops with
  | @unknownProperty missing identifier unknown =>
      obtain ⟨property, member, named⟩ := sound.identifierKnown missing identifier
      exact absurd named (unknown property member)
  | unknownEntity => simp
  | unstorable => simp

theorem identifierStorage_knows_property (sound : snapshot.Sound)
    (member : entity ∈ snapshot.entities) (fails : snapshot.identifierStorage entity = .error error)
    (owner name : String) : error ≠ .lookup (.unknownProperty owner name) := by
  rcases first_return_or_fresh snapshot entity with ⟨steps, within, returns, first⟩ | fresh
  · rw [cycle_of_returns within returns first] at fails
    obtain rfl := Except.error.inj fails
    simp
  · cases bound : snapshot.reached entity longestChain with
    | some last =>
        rw [tooDeep_of_fresh fresh (by simp [bound])] at fails
        obtain rfl := Except.error.inj fails
        simp
    | none =>
        obtain ⟨steps, -, last, reaches, -, stops⟩ := stops_of_fresh fresh bound
        rw [fails] at stops
        exact stops.knows_property (sound.soundEntities last (mem_of_reached member reaches)) owner name

theorem storage_knows_property (sound : snapshot.Sound) {type : PropertyType}
    (fails : snapshot.storage type = .error error) (owner name : String) :
    error ≠ .lookup (.unknownProperty owner name) := by
  cases type with
  | scalar type => simp [storage] at fails
  | array element => simp [storage] at fails
  | subtype subtype =>
      simp only [storage] at fails
      split at fails
      · simp at fails
      · rename_i missing unknown
        obtain ⟨rfl, -⟩ := subtype_eq_error.1 unknown
        obtain rfl := Except.error.inj fails
        simp
  | relationship relationship =>
      obtain ⟨target, association⟩ := relationship
      cases association with
      | toMany => simp [storage] at fails
      | toOne =>
          simp only [storage] at fails
          split at fails
          · rename_i candidate known
            exact identifierStorage_knows_property sound (mem_of_entity known) fails owner name
          · rename_i missing unknown
            obtain ⟨rfl, -⟩ := entity_eq_error.1 unknown
            obtain rfl := Except.error.inj fails
            simp

end Snapshot

theorem Shape.block_knows_property {shape : Shape} (sound : shape.snapshot.Sound)
    {formerName : Option String} {mode : NamingMode} {error : CompileError}
    (fails : shape.block formerName mode = .error error) :
    ∃ source, error.source? = some source ∧
      ∀ owner name, source ≠ .lookup (.unknownProperty owner name) := by
  obtain ⟨source, isSource, rfl | ⟨entity, member, unresolved | ⟨property, -, untyped⟩⟩⟩ :=
    source_of_block_error fails
  · exact ⟨_, isSource, by simp⟩
  · exact ⟨source, isSource, Snapshot.identifierStorage_knows_property sound member unresolved⟩
  · exact ⟨source, isSource, Snapshot.storage_knows_property sound untyped⟩

namespace Catalog

variable {catalog : Catalog} {config : Config} {current : Version} {error : CompileError}

theorem Sound.snapshot {version : Version} {snapshot : Snapshot} (sound : catalog.Sound)
    (found : catalog.snapshot version = .ok snapshot) : snapshot.Sound :=
  sound.soundSnapshots _ (mem_of_snapshot found)

theorem Sound.checkpoints (sound : catalog.Sound)
    (known : ∀ version ∈ config.checkpoints, ∃ snapshot, catalog.snapshot version = .ok snapshot) :
    ∀ version ∈ catalog.checkpointsFor config,
      ∃ snapshot, catalog.snapshot version = .ok snapshot := by
  unfold checkpointsFor
  split
  · exact sound.checkpointsKnown
  · exact known

theorem shapes_error_of_sound {entity : Entity} {checkpoints : List Version} {snapshot : Snapshot}
    (sound : entity.Sound) (persisted : entity.isPersisted = true)
    (found : catalog.snapshot current = .ok snapshot)
    (known : ∀ version ∈ checkpoints, ∃ snapshot, catalog.snapshot version = .ok snapshot)
    (fails : catalog.shapes entity current checkpoints = .error error) :
    ∃ addedAt, entity.addedAt = some addedAt ∧ error = .missingSnapshot addedAt := by
  obtain ⟨version, isVersion⟩ := sound.addedAtKnown persisted
  rcases shapes_eq_error.1 fails with
    missing | ⟨-, -, ⟨unknown, -⟩ | ⟨addedAt, mappings, added, -, failure⟩⟩
  · simp [snapshotAt_eq_ok.2 found] at missing
  · simp [isVersion] at unknown
  · obtain ⟨boundary, -, fails⟩ := item_of_first_failure failure
    obtain ⟨missing, rfl⟩ := shape_eq_error.1 fails
    refine ⟨addedAt, added, ?_⟩
    rcases describingVersion_cases checkpoints current addedAt boundary.1 boundary.2 with
      isCurrent | isCheckpoint | isAddedAt
    · simp [isCurrent, found] at missing
    · obtain ⟨describing, describes⟩ := known _ isCheckpoint
      simp [describes] at missing
    · rw [isAddedAt]

theorem Sound.validate (sound : catalog.Sound) : catalog.validate = .ok () :=
  Findings.result_eq_ok.2 (findings_isEmpty.2 sound)

theorem Sound.check (sound : catalog.Sound) : catalog.check config = .ok () := by
  unfold Catalog.check
  rw [sound.validate]
  cases config.validates <;> rfl

/-- In a sound catalog compilation misses a snapshot or has something against a type. -/
theorem compile_error_of_sound (sound : catalog.Sound)
    (known : ∀ version ∈ config.checkpoints, ∃ snapshot, catalog.snapshot version = .ok snapshot)
    (fails : catalog.compile config current = .error error) :
    error = .missingSnapshot current ∨
      (∃ snapshot entity addedAt, catalog.snapshot current = .ok snapshot ∧
        entity ∈ snapshot.persisted ∧ entity.addedAt = some addedAt ∧
        error = .missingSnapshot addedAt) ∨
      ∃ source, error.source? = some source ∧
        ∀ owner name, source ≠ .lookup (.unknownProperty owner name) := by
  have knownHere := sound.checkpoints known
  rcases compile_eq_error.1 fails with unsound | ⟨-, missing | ⟨snapshot, found, failure⟩⟩
  · simp [sound.check] at unsound
  · exact Or.inl (snapshotAt_eq_error.1 missing).2
  · obtain ⟨entity, member, notDrawn⟩ := item_of_first_failure failure
    obtain ⟨inSnapshot, persisted⟩ := List.mem_filter.1 member
    have soundEntity := (sound.snapshot found).soundEntities entity inSnapshot
    refine Or.inr ?_
    rcases entityBlocks_eq_error.1 notDrawn with unresolved | ⟨shapes, resolved, blockFailure⟩
    · obtain ⟨addedAt, added, isError⟩ :=
        shapes_error_of_sound soundEntity persisted found knownHere unresolved
      exact Or.inl ⟨snapshot, entity, addedAt, found, member, added, isError⟩
    · obtain ⟨shape, shapeMember, blockFails⟩ := item_of_first_failure blockFailure
      have soundShape := sound.snapshot (mem_shapes resolved shapeMember).2
      exact Or.inr (Shape.block_knows_property soundShape blockFails)

/-- A catalog that passes validation never fails for an entity without the version that added it or
for a missing property, and it can only miss the snapshot of the current version or of a version that
added a persisted entity. -/
theorem compile_of_valid (catalog : Catalog) (config : Config) (current : Version)
    (valid : catalog.validate = .ok ())
    (known : ∀ version ∈ config.checkpoints, ∃ snapshot, catalog.snapshot version = .ok snapshot)
    {error : CompileError} (fails : catalog.compile config current = .error error) :
    (∀ name, error ≠ .missingAddedAt name) ∧
      (∀ owner name, error.source? ≠ some (.lookup (.unknownProperty owner name))) ∧
      ∀ version, error = .missingSnapshot version →
        version = current ∨
          ∃ snapshot, catalog.snapshot current = .ok snapshot ∧
            ∃ entity ∈ snapshot.persisted, entity.addedAt = some version := by
  have sound : catalog.Sound := findings_isEmpty.1 (Findings.result_eq_ok.1 valid)
  rcases compile_error_of_sound sound known fails with
    rfl | ⟨snapshot, entity, addedAt, found, member, added, rfl⟩ | ⟨source, isSource, knowsProperty⟩
  · refine ⟨by simp, by simp [CompileError.source?], ?_⟩
    intro version missing
    obtain rfl := CompileError.missingSnapshot.inj missing
    exact Or.inl rfl
  · refine ⟨by simp, by simp [CompileError.source?], ?_⟩
    intro version missing
    obtain rfl := CompileError.missingSnapshot.inj missing
    exact Or.inr ⟨snapshot, found, entity, member, added⟩
  · refine ⟨?_, ?_, ?_⟩
    · intro name isMissing
      rw [isMissing] at isSource
      simp [CompileError.source?] at isSource
    · intro owner name isUnknown
      rw [isSource] at isUnknown
      exact knowsProperty owner name (Option.some.inj isUnknown)
    · intro version isMissing
      rw [isMissing] at isSource
      simp [CompileError.source?] at isSource

end Catalog

namespace Cinema

def laterCatalog : Catalog where
  snapshots := [(⟨2, 0, 0⟩, { entities := [genre] })]
  ascending := by unfold Ascending.Sorted; decide

def laterConfig : Config where
  checkpoints := [⟨2, 0, 0⟩]

/-- The catalog is valid, and yet the first shape of the genre cannot be drawn, since the genre was
added by the version without a snapshot. -/
theorem laterCatalog_lacks_first_version :
    laterCatalog.validate = .ok () ∧
      laterCatalog.compile laterConfig ⟨2, 0, 0⟩ = .error (.missingSnapshot ⟨1, 0, 0⟩) ∧
      ∃ snapshot, laterCatalog.snapshot ⟨2, 0, 0⟩ = .ok snapshot ∧
        ∃ entity ∈ snapshot.persisted, entity.addedAt = some ⟨1, 0, 0⟩ := by
  have valid : laterCatalog.validate = .ok () := rfl
  have known : ∀ version ∈ laterConfig.checkpoints,
      ∃ snapshot, laterCatalog.snapshot version = .ok snapshot := by
    intro version member
    obtain rfl := List.mem_singleton.1 member
    exact ⟨_, rfl⟩
  have fails : laterCatalog.compile laterConfig ⟨2, 0, 0⟩ =
      .error (.missingSnapshot ⟨1, 0, 0⟩) := rfl
  obtain ⟨-, -, missing⟩ := laterCatalog.compile_of_valid laterConfig ⟨2, 0, 0⟩ valid known fails
  rcases missing ⟨1, 0, 0⟩ rfl with isCurrent | isAddedAt
  · exact absurd isCurrent (by decide)
  · exact ⟨valid, fails, isAddedAt⟩

end Cinema

end SchemaHistory
