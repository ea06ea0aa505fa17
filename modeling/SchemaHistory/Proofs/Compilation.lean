import SchemaHistory.Compile
import SchemaHistory.Proofs.Block
import SchemaHistory.Proofs.Lineage

/-!
Compilation goes through the persisted entities in the order of the current snapshot, and for each
of them first resolves all its shapes and then draws their blocks. The document holds one block for
each boundary of each entity, in this order; a failure is the first one that is met on this way.
-/

namespace SchemaHistory

open Traversal

set_option autoImplicit false

def Snapshot.boundaries (snapshot : Snapshot) : List (Entity × Version) :=
  (snapshot.entities.filter (·.isPersisted)).flatMap fun entity =>
    entity.labels.map fun label => (entity, label)

namespace Catalog

variable {catalog : Catalog} {config : Config} {current : Version}

/-- The blocks are those of the stored shapes of the entity, one by one. -/
def Draws (catalog : Catalog) (config : Config) (current : Version) (entity : Entity)
    (blocks : List Block) : Prop :=
  ∃ shapes, catalog.shapes entity current (catalog.checkpointsFor config) = .ok shapes ∧
    List.Forall₂ (fun shape block => shape.block entity.previousName config.naming = .ok block)
      shapes blocks

/-- The block shows the shape of an entity at a boundary, and its name ends in the label. -/
def Shows (catalog : Catalog) (config : Config) (current : Version) (boundary : Entity × Version)
    (block : Block) : Prop :=
  ∃ shapes, catalog.shapes boundary.1 current (catalog.checkpointsFor config) = .ok shapes ∧
    ∃ shape ∈ shapes, shape.label = boundary.2 ∧
      shape.block boundary.1.previousName config.naming = .ok block ∧
      ∃ stem, block.storeName = stem ++ "_" ++ boundary.2.underscored

/-- The shapes of an entity cannot be resolved, or they can and the first that cannot be drawn fails
with this error. -/
def DrawingFails (catalog : Catalog) (config : Config) (current : Version) (entity : Entity)
    (error : CompileError) : Prop :=
  catalog.shapes entity current (catalog.checkpointsFor config) = .error error ∨
    ∃ shapes, catalog.shapes entity current (catalog.checkpointsFor config) = .ok shapes ∧
      FirstFailure (fun shape => shape.block entity.previousName config.naming) shapes error

theorem entityBlocks_eq_ok {entity : Entity} {blocks : List Block} :
    catalog.entityBlocks config current entity = .ok blocks ↔
      catalog.Draws config current entity blocks := by
  simp only [entityBlocks, Draws, bind_eq_ok, mapM_eq_ok]

theorem entityBlocks_eq_error {entity : Entity} {error : CompileError} :
    catalog.entityBlocks config current entity = .error error ↔
      catalog.DrawingFails config current entity error := by
  simp only [entityBlocks, DrawingFails, bind_eq_error, mapM_eq_error]

theorem document_eq_ok {document : Document} :
    catalog.document config current = .ok document ↔
      catalog.check config = .ok () ∧ ∃ snapshot groups, catalog.snapshot current = .ok snapshot ∧
        List.Forall₂ (catalog.Draws config current) snapshot.persisted groups ∧
        document = { version := current, blocks := groups.flatten } := by
  simp only [Catalog.document, bind_eq_ok, snapshotAt_eq_ok, mapM_eq_ok, entityBlocks_eq_ok,
    Except.ok.injEq]
  constructor
  · intro compiled
    rcases compiled with ⟨⟨⟩, sound, snapshot, found, groups, drawn, rfl⟩
    exact ⟨sound, snapshot, groups, found, drawn, rfl⟩
  · intro holds
    rcases holds with ⟨sound, snapshot, groups, found, drawn, rfl⟩
    exact ⟨(), sound, snapshot, found, groups, drawn, rfl⟩

theorem compile_eq_ok {artifact : Artifact} :
    catalog.compile config current = .ok artifact ↔
      catalog.check config = .ok () ∧ ∃ snapshot groups, catalog.snapshot current = .ok snapshot ∧
        List.Forall₂ (catalog.Draws config current) snapshot.persisted groups ∧
        artifact =
          { name := config.artifactName
            content := Document.render { version := current, blocks := groups.flatten } } := by
  simp only [compile, bind_eq_ok, document_eq_ok, Except.ok.injEq]
  constructor
  · intro compiled
    rcases compiled with ⟨-, ⟨sound, snapshot, groups, found, drawn, rfl⟩, rfl⟩
    exact ⟨sound, snapshot, groups, found, drawn, rfl⟩
  · intro holds
    rcases holds with ⟨sound, snapshot, groups, found, drawn, rfl⟩
    exact ⟨_, ⟨sound, snapshot, groups, found, drawn, rfl⟩, rfl⟩

theorem compile_eq_error {error : CompileError} :
    catalog.compile config current = .error error ↔
      catalog.check config = .error error ∨
        catalog.check config = .ok () ∧
          (catalog.snapshotAt current = .error error ∨
            ∃ snapshot, catalog.snapshot current = .ok snapshot ∧
              FirstFailure (catalog.entityBlocks config current) snapshot.persisted error) := by
  simp [compile, document, bind_eq_error, snapshotAt_eq_ok, mapM_eq_error, Unique.exists_iff]

/-- Two compilations are the same when they pass the same check, meet persisted entities that correspond
in their order, and draw the same blocks of those that correspond. -/
theorem compile_congr_of_pairs {second : Catalog} {other : Config} {paired : Entity → Entity → Prop}
    (sameName : config.artifactName = other.artifactName)
    (sameCheck : catalog.check config = second.check other)
    (pairs : Agree (fun snapshot found => List.Forall₂ paired snapshot.persisted found.persisted)
      (catalog.snapshotAt current) (second.snapshotAt current))
    (sameBlocks : ∀ entity counterpart, paired entity counterpart →
      catalog.entityBlocks config current entity = second.entityBlocks other current counterpart) :
    catalog.compile config current = second.compile other current := by
  have sameDocument : catalog.document config current = second.document other current := by
    unfold document
    rw [sameCheck]
    apply bind_eq_of_ok
    intro _ _
    apply pairs.bind_eq
    intro snapshot found _ _ correspond
    rw [mapM_congr_of_pairs sameBlocks correspond]
  unfold compile
  rw [sameDocument, sameName]

theorem compile_congr {second : Catalog} {other : Config}
    (sameName : config.artifactName = other.artifactName)
    (sameCheck : catalog.check config = second.check other)
    (samePersisted : Agree (fun snapshot found => snapshot.persisted = found.persisted)
      (catalog.snapshotAt current) (second.snapshotAt current))
    (sameBlocks : ∀ entity,
      catalog.entityBlocks config current entity = second.entityBlocks other current entity) :
    catalog.compile config current = second.compile other current := by
  apply compile_congr_of_pairs sameName sameCheck
  · apply samePersisted.imp
    intro snapshot found _ _ same
    rw [same, List.forall₂_same]
    intro entity _
    exact rfl
  · intro entity counterpart same
    rw [same, sameBlocks]

theorem Draws.shows {entity : Entity} {blocks : List Block}
    (drawn : catalog.Draws config current entity blocks) :
    List.Forall₂ (catalog.Shows config current)
      (entity.labels.map fun label => (entity, label)) blocks := by
  obtain ⟨shapes, resolved, blocksDrawn⟩ := drawn
  rw [← shapes_labels resolved, List.map_map, List.forall₂_map_left_iff]
  have members : ∀ shape ∈ shapes, shape ∈ shapes := fun _ member => member
  refine ((List.forall₂_and_left _ _).2 ⟨members, blocksDrawn⟩).imp ?_
  intro shape block ⟨member, isDrawn⟩
  exact ⟨shapes, resolved, shape, member, rfl, isDrawn, Shape.block_storeName isDrawn⟩

theorem shows_of_draws {entities : List Entity} {groups : List (List Block)}
    (drawn : List.Forall₂ (catalog.Draws config current) entities groups) :
    List.Forall₂ (catalog.Shows config current)
      (entities.flatMap fun entity => entity.labels.map fun label => (entity, label))
      groups.flatten := by
  rw [List.flatMap_def]
  refine List.rel_flatten ?_
  rw [List.forall₂_map_left_iff]
  exact drawn.imp fun entity group groupDrawn => groupDrawn.shows

end Catalog

namespace Cinema

/-- A catalog of three versions. Genres were called categories at first; the films of the last version
refer to studios, which no version describes. -/
def film : Entity where
  name := "Film"
  isPersisted := true
  identifier := .property "title"
  addedAt := some ⟨2, 0, 0⟩
  properties := [{ name := "title", type := .scalar .string },
    { name := "genre", type := .toOne "Genre" }]

def genre : Entity where
  name := "Genre"
  isPersisted := true
  identifier := .scalar .int
  addedAt := some ⟨1, 0, 0⟩
  previousName := some "Category"
  mappings := some [⟨2, 0, 0⟩]

def catalog : Catalog where
  snapshots :=
    [(⟨1, 0, 0⟩, { entities := [{ genre with name := "Category", mappings := none }] }),
      (⟨2, 0, 0⟩, { entities := [film, genre] }),
      (⟨3, 0, 0⟩,
        { entities := [genre, film.withProperty { name := "studio", type := .toOne "Studio" }] })]
  checkpoints := [⟨1, 0, 0⟩]
  ascending := by unfold Ascending.Sorted; decide

end Cinema

end SchemaHistory
