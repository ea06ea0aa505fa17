import SchemaHistory.Proofs.SoundCompilation

/-!
The order in which an author lists entities and subtypes. Everything that is drawn is looked up by
name, and in a sound snapshot a name is borne once, so a rearranged snapshot answers every look-up as
before: identifiers are followed to the same end, types are stored in the same way, and the shapes of an
entity have the same blocks. The order is seen only in that in which the groups of blocks stand.
-/

namespace SchemaHistory

open Traversal

set_option autoImplicit false

namespace Snapshot

/-- Both snapshots have the same answer for every name. -/
structure AnswersAs (snapshot other : Snapshot) : Prop where
  entity : ∀ name, snapshot.entity name = other.entity name
  subtype : ∀ name, snapshot.subtype name = other.subtype name

/-- Both snapshots list the same entities and the same subtypes, each in an order of its own. -/
structure Rearranges (snapshot other : Snapshot) : Prop where
  entities : snapshot.entities.Perm other.entities
  subtypes : snapshot.subtypes.Perm other.subtypes

variable {snapshot other : Snapshot}

theorem Rearranges.symm (rearranged : snapshot.Rearranges other) : other.Rearranges snapshot :=
  ⟨rearranged.entities.symm, rearranged.subtypes.symm⟩

theorem Rearranges.sound (rearranged : snapshot.Rearranges other) (sound : snapshot.Sound) :
    other.Sound where
  distinctEntities := (rearranged.entities.map _).nodup_iff.1 sound.distinctEntities
  distinctSubtypes := (rearranged.subtypes.map _).nodup_iff.1 sound.distinctSubtypes
  soundEntities := by
    intro entity member
    exact sound.soundEntities entity (rearranged.entities.mem_iff.2 member)

theorem Rearranges.persisted (rearranged : snapshot.Rearranges other) :
    snapshot.persisted.Perm other.persisted := rearranged.entities.filter _

theorem Rearranges.answersAs (rearranged : snapshot.Rearranges other) (sound : snapshot.Sound) :
    snapshot.AnswersAs other where
  entity := by
    intro name
    unfold Snapshot.entity
    rw [find_named_of_perm Entity.name sound.distinctEntities rearranged.entities]
  subtype := by
    intro name
    unfold Snapshot.subtype
    rw [find_named_of_perm SubtypeDefinition.name sound.distinctSubtypes rearranged.subtypes]

theorem AnswersAs.hop (answers : snapshot.AnswersAs other) (entity : Entity) :
    snapshot.hop entity = other.hop entity := by
  have sameHop : snapshot.propertyHop entity = other.propertyHop entity := by
    funext type
    unfold propertyHop
    simp only [answers.entity]
  unfold Snapshot.hop
  rw [sameHop]

theorem AnswersAs.walk (answers : snapshot.AnswersAs other) (start : String) (budget : Nat)
    (visited : List String) (entity : Entity) :
    snapshot.walk start budget visited entity = other.walk start budget visited entity := by
  induction budget generalizing visited entity with
  | zero => rfl
  | succ budget ih =>
      rw [Snapshot.walk, Snapshot.walk, answers.hop]
      simp only [ih]

theorem AnswersAs.identifierStorage (answers : snapshot.AnswersAs other) (entity : Entity) :
    snapshot.identifierStorage entity = other.identifierStorage entity :=
  answers.walk entity.name longestChain [] entity

theorem AnswersAs.storage (answers : snapshot.AnswersAs other) (type : PropertyType) :
    snapshot.storage type = other.storage type := by
  unfold Snapshot.storage
  simp only [answers.entity, answers.subtype, answers.identifierStorage]

end Snapshot

namespace Shape

structure Matches (shape other : Shape) : Prop where
  answers : shape.snapshot.AnswersAs other.snapshot
  same : other = { shape with snapshot := other.snapshot }

variable {shape other : Shape}

theorem Matches.block (isMatch : shape.Matches other) (formerName : Option String)
    (mode : NamingMode) : shape.block formerName mode = other.block formerName mode := by
  obtain ⟨answers, same⟩ := isMatch
  have sameEntity : shape.entity formerName = other.entity formerName := by
    rw [same]
    unfold Shape.entity
    simp only [answers.entity]
  have sameIdentifier : shape.identifierStorage = other.identifierStorage := by
    funext entity
    rw [same]
    unfold Shape.identifierStorage
    rw [answers.identifierStorage]
  have sameAttributes : shape.propertyAttributes = other.propertyAttributes := by
    funext entity mode property
    rw [same]
    unfold Shape.propertyAttributes
    rw [answers.storage]
  have sameLabel : shape.label = other.label := by rw [same]
  have samePreviousName : shape.previousName = other.previousName := by rw [same]
  unfold Shape.block
  rw [sameEntity, sameIdentifier, sameAttributes, sameLabel, samePreviousName]

end Shape

namespace Catalog

/-- Both catalogs have the same versions and the same checkpoints, and for each version snapshots that
differ in order only. -/
structure Rearranges (first second : Catalog) : Prop where
  versions : first.versions = second.versions
  checkpoints : first.checkpoints = second.checkpoints
  snapshots : ∀ version snapshot other, first.snapshot version = .ok snapshot →
    second.snapshot version = .ok other → snapshot.Rearranges other

variable {first second : Catalog} {config : Config} {current : Version} {entity : Entity}
  {checkpoints : List Version}

theorem Rearranges.symm (rearranged : first.Rearranges second) : second.Rearranges first where
  versions := rearranged.versions.symm
  checkpoints := rearranged.checkpoints.symm
  snapshots := by
    intro version snapshot other found otherFound
    exact (rearranged.snapshots version other snapshot otherFound found).symm

theorem Rearranges.snapshotAt (rearranged : first.Rearranges second) (version : Version) :
    Agree Snapshot.Rearranges (first.snapshotAt version) (second.snapshotAt version) := by
  have sameKnown : (∃ snapshot, first.snapshot version = .ok snapshot) ↔
      ∃ snapshot, second.snapshot version = .ok snapshot := by
    rw [← mem_versions_iff, ← mem_versions_iff, rearranged.versions]
  unfold Catalog.snapshotAt
  cases found : first.snapshot version with
  | ok snapshot =>
      obtain ⟨other, otherFound⟩ := sameKnown.1 ⟨snapshot, found⟩
      rw [otherFound]
      exact .ok (rearranged.snapshots version snapshot other found otherFound)
  | error error =>
      cases otherFound : second.snapshot version with
      | ok other =>
          obtain ⟨snapshot, isFound⟩ := sameKnown.2 ⟨other, otherFound⟩
          rw [found] at isFound
          cases isFound
      | error otherError =>
          rw [(snapshot_eq_error.1 found).1, (snapshot_eq_error.1 otherFound).1]
          exact .error _

theorem Rearranges.sound (rearranged : first.Rearranges second) (sound : first.Sound) :
    second.Sound where
  soundSnapshots := by
    intro entry member
    have otherFound : second.snapshot entry.1 = .ok entry.2 := snapshot_of_mem member
    have isVersion : entry.1 ∈ first.versions := by
      rw [rearranged.versions]
      exact mem_versions_iff.2 ⟨entry.2, otherFound⟩
    obtain ⟨snapshot, found⟩ := mem_versions_iff.1 isVersion
    exact (rearranged.snapshots _ _ _ found otherFound).sound (sound.snapshot found)
  checkpointsKnown := by
    intro version member
    rw [← rearranged.checkpoints] at member
    rw [← mem_versions_iff, ← rearranged.versions, mem_versions_iff]
    exact sound.checkpointsKnown version member

theorem Rearranges.answers (rearranged : first.Rearranges second) (sound : first.Sound)
    (version : Version) :
    Agree Snapshot.AnswersAs (first.snapshotAt version) (second.snapshotAt version) := by
  refine (rearranged.snapshotAt version).imp ?_
  intro snapshot other found _ isRearranged
  exact isRearranged.answersAs (sound.snapshot (snapshotAt_eq_ok.1 found))

theorem Rearranges.entityBlocks (rearranged : first.Rearranges second) (sound : first.Sound)
    (entity : Entity) :
    first.entityBlocks config current entity = second.entityBlocks config current entity := by
  have sameCheckpoints : first.checkpointsFor config = second.checkpointsFor config := by
    unfold checkpointsFor
    rw [rearranged.checkpoints]
  unfold Catalog.entityBlocks
  rw [sameCheckpoints]
  have matchings : Agree (List.Forall₂ Shape.Matches)
      (first.shapes entity current (second.checkpointsFor config))
      (second.shapes entity current (second.checkpointsFor config)) := by
    apply shapes_agree (rearranged.answers sound)
    intro shape snapshot answers
    exact ⟨answers, rfl⟩
  apply matchings.bind_eq
  intro shapes otherShapes _ _ matching
  refine mapM_congr_of_pairs ?_ matching
  intro shape other isMatch
  exact isMatch.block entity.previousName config.naming

def groupOf (catalog : Catalog) (config : Config) (current : Version) (entity : Entity) :
    List Block :=
  (catalog.entityBlocks config current entity).toOption.getD []

theorem Draws.eq_groupOf {catalog : Catalog} {blocks : List Block}
    (drawn : catalog.Draws config current entity blocks) :
    blocks = catalog.groupOf config current entity := by
  unfold groupOf
  rw [entityBlocks_eq_ok.2 drawn]
  rfl

theorem compile_eq_ok_groupOf {catalog : Catalog} {artifact : Artifact} :
    catalog.compile config current = .ok artifact ↔
      catalog.check config = .ok () ∧ ∃ snapshot, catalog.snapshot current = .ok snapshot ∧
        (∀ entity ∈ snapshot.persisted,
          catalog.Draws config current entity (catalog.groupOf config current entity)) ∧
        artifact =
          { name := config.artifactName
            content := Document.render
              { version := current
                blocks := snapshot.persisted.flatMap (catalog.groupOf config current) } } := by
  rw [compile_eq_ok]
  constructor
  · intro compiled
    obtain ⟨passes, snapshot, groups, found, drawn, rfl⟩ := compiled
    have isGroup : groups.map id = snapshot.persisted.map (catalog.groupOf config current) :=
      map_eq_of_results (fun entity group groupDrawn => groupDrawn.eq_groupOf) drawn
    rw [List.map_id] at isGroup
    rw [isGroup, List.forall₂_map_right_iff, List.forall₂_same] at drawn
    exact ⟨passes, snapshot, found, drawn, by rw [isGroup, List.flatMap_def]⟩
  · intro holds
    obtain ⟨passes, snapshot, found, drawn, rfl⟩ := holds
    refine ⟨passes, snapshot, snapshot.persisted.map (catalog.groupOf config current), found, ?_, ?_⟩
    · rw [List.forall₂_map_right_iff, List.forall₂_same]
      exact drawn
    · rw [List.flatMap_def]

theorem Rearranges.groupOf (rearranged : first.Rearranges second) (sound : first.Sound) :
    first.groupOf config current = second.groupOf config current := by
  funext entity
  unfold Catalog.groupOf
  rw [rearranged.entityBlocks sound]

theorem Rearranges.draws (rearranged : first.Rearranges second) (sound : first.Sound)
    {blocks : List Block} :
    first.Draws config current entity blocks ↔ second.Draws config current entity blocks := by
  rw [← entityBlocks_eq_ok, ← entityBlocks_eq_ok, rearranged.entityBlocks sound]

theorem Rearranges.compile (rearranged : first.Rearranges second) (sound : first.Sound)
    {artifact : Artifact} (compiled : first.compile config current = .ok artifact) :
    ∃ snapshot other, first.snapshot current = .ok snapshot ∧ second.snapshot current = .ok other ∧
      snapshot.persisted.Perm other.persisted ∧
      (∀ entity ∈ snapshot.persisted,
        first.Draws config current entity (first.groupOf config current entity)) ∧
      artifact =
        { name := config.artifactName
          content := Document.render
            { version := current
              blocks := snapshot.persisted.flatMap (first.groupOf config current) } } ∧
      second.compile config current =
        .ok
          { name := config.artifactName
            content := Document.render
              { version := current
                blocks := other.persisted.flatMap (first.groupOf config current) } } := by
  obtain ⟨-, snapshot, found, drawn, rfl⟩ := compile_eq_ok_groupOf.1 compiled
  obtain ⟨other, otherFound⟩ : ∃ other, second.snapshot current = .ok other := by
    rw [← mem_versions_iff, ← rearranged.versions, mem_versions_iff]
    exact ⟨snapshot, found⟩
  have samePersisted := (rearranged.snapshots current snapshot other found otherFound).persisted
  refine ⟨snapshot, other, found, otherFound, samePersisted, drawn, rfl, ?_⟩
  rw [compile_eq_ok_groupOf, rearranged.groupOf sound]
  refine ⟨(rearranged.sound sound).check, other, otherFound, ?_, rfl⟩
  intro entity member
  rw [← rearranged.draws sound, ← rearranged.groupOf sound]
  exact drawn entity (samePersisted.mem_iff.2 member)

theorem Rearranges.compile_eq (rearranged : first.Rearranges second) (sound : first.Sound)
    (sameOrder : ∀ snapshot other, first.snapshot current = .ok snapshot →
      second.snapshot current = .ok other → snapshot.entities = other.entities) :
    first.compile config current = second.compile config current := by
  apply compile_congr rfl
  · rw [sound.check, (rearranged.sound sound).check]
  · refine (rearranged.snapshotAt current).imp ?_
    intro snapshot other found otherFound _
    unfold Snapshot.persisted
    rw [sameOrder snapshot other (snapshotAt_eq_ok.1 found) (snapshotAt_eq_ok.1 otherFound)]
  · exact rearranged.entityBlocks sound

/-- Rearranging the snapshots of a valid catalog keeps it valid. A model can be made of both catalogs or
of neither, and the two documents have the same groups of blocks, each in the order in which the current
snapshot has the entities. Where that order is the same, so is the outcome, artifact or failure. -/
theorem compile_of_rearranged (config : Config) (current : Version)
    (valid : first.validate = .ok ()) (rearranged : first.Rearranges second) :
    second.validate = .ok () ∧
      ((∀ snapshot other, first.snapshot current = .ok snapshot →
          second.snapshot current = .ok other → snapshot.entities = other.entities) →
        first.compile config current = second.compile config current) ∧
      ((∃ artifact, first.compile config current = .ok artifact) ↔
        ∃ artifact, second.compile config current = .ok artifact) ∧
      ∀ artifact, first.compile config current = .ok artifact →
        ∃ snapshot other, first.snapshot current = .ok snapshot ∧
          second.snapshot current = .ok other ∧ snapshot.persisted.Perm other.persisted ∧
          (∀ entity ∈ snapshot.persisted,
            first.Draws config current entity (first.groupOf config current entity)) ∧
          artifact =
            { name := config.artifactName
              content := Document.render
                { version := current
                  blocks := snapshot.persisted.flatMap (first.groupOf config current) } } ∧
          second.compile config current =
            .ok
              { name := config.artifactName
                content := Document.render
                  { version := current
                    blocks := other.persisted.flatMap (first.groupOf config current) } } := by
  have sound : first.Sound := sound_of_valid valid
  have otherSound : second.Sound := rearranged.sound sound
  refine ⟨otherSound.validate, rearranged.compile_eq sound, ?_, ?_⟩
  · constructor
    · rintro ⟨artifact, compiled⟩
      obtain ⟨snapshot, other, -, -, -, -, -, made⟩ := rearranged.compile sound compiled
      exact ⟨_, made⟩
    · rintro ⟨artifact, compiled⟩
      obtain ⟨snapshot, other, -, -, -, -, -, made⟩ := rearranged.symm.compile otherSound compiled
      exact ⟨_, made⟩
  · intro artifact compiled
    exact rearranged.compile sound compiled

end Catalog

namespace Cinema

def genreFirst : Catalog where
  snapshots :=
    [(⟨1, 0, 0⟩, { entities := [{ genre with name := "Category", mappings := none }] }),
      (⟨2, 0, 0⟩, { entities := [genre, film] }),
      (⟨3, 0, 0⟩,
        { entities := [genre, film.withProperty { name := "studio", type := .toOne "Studio" }] })]
  checkpoints := [⟨1, 0, 0⟩]
  ascending := by unfold Ascending.Sorted; decide

theorem genreFirst_rearranges : catalog.Rearranges genreFirst where
  versions := rfl
  checkpoints := rfl
  snapshots := by
    intro version snapshot other found otherFound
    have listed := Catalog.mem_of_snapshot found
    simp only [catalog, List.mem_cons, List.not_mem_nil, or_false, Prod.mk.injEq] at listed
    rcases listed with ⟨rfl, rfl⟩ | ⟨rfl, rfl⟩ | ⟨rfl, rfl⟩
    · obtain rfl := Except.ok.inj otherFound
      exact ⟨.refl _, .refl _⟩
    · obtain rfl := Except.ok.inj otherFound
      exact ⟨.swap _ _ _, .refl _⟩
    · obtain rfl := Except.ok.inj otherFound
      exact ⟨.refl _, .refl _⟩

/-- For the second version the document of the one has the block of the film first, and that of the other
last. For the third version both fail at the same property. -/
theorem genreFirst_compilation :
    catalog.validate = .ok () ∧ catalog.Rearranges genreFirst ∧ genreFirst.validate = .ok () ∧
      catalog.compile {} ⟨3, 0, 0⟩ = genreFirst.compile {} ⟨3, 0, 0⟩ ∧
      genreFirst.compile {} ⟨3, 0, 0⟩ =
        .error (.property "Film" "studio" ⟨2, 0, 0⟩ (.lookup (.unknownEntity "Studio"))) ∧
      ∃ filmBlocks genreBlocks,
        catalog.compile {} ⟨2, 0, 0⟩ =
          .ok
            { name := "contents"
              content := Document.render
                { version := ⟨2, 0, 0⟩, blocks := filmBlocks ++ genreBlocks } } ∧
        genreFirst.compile {} ⟨2, 0, 0⟩ =
          .ok
            { name := "contents"
              content := Document.render
                { version := ⟨2, 0, 0⟩, blocks := genreBlocks ++ filmBlocks } } := by
  have valid : catalog.validate = .ok () := rfl
  obtain ⟨otherValid, -, -, made⟩ :=
    Catalog.compile_of_rearranged {} ⟨2, 0, 0⟩ valid genreFirst_rearranges
  obtain ⟨artifact, compiled⟩ : ∃ artifact, catalog.compile {} ⟨2, 0, 0⟩ = .ok artifact := ⟨_, rfl⟩
  obtain ⟨snapshot, other, found, otherFound, -, -, rfl, otherCompiled⟩ := made artifact compiled
  obtain rfl := Except.ok.inj found
  obtain rfl := Except.ok.inj otherFound
  refine ⟨valid, genreFirst_rearranges, otherValid, ?_, rfl, ?_⟩
  · apply (Catalog.compile_of_rearranged {} ⟨3, 0, 0⟩ valid genreFirst_rearranges).2.1
    intro snapshot other found otherFound
    obtain rfl := Except.ok.inj found
    obtain rfl := Except.ok.inj otherFound
    rfl
  · have filmFirst : ({ entities := [film, genre] } : Snapshot).persisted = [film, genre] := rfl
    have filmLast : ({ entities := [genre, film] } : Snapshot).persisted = [genre, film] := rfl
    rw [filmFirst] at compiled
    rw [filmLast] at otherCompiled
    simp only [List.flatMap_cons, List.flatMap_nil, List.append_nil] at compiled otherCompiled
    exact ⟨_, _, compiled, otherCompiled⟩

end Cinema

end SchemaHistory
