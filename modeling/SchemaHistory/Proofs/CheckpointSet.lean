import SchemaHistory.Proofs.SoundCompilation
import SchemaHistory.Proofs.Stability

/-!
Checkpoints count as a set. Their list is searched for the latest that is eligible, so neither its order
nor a repetition in it has any influence on the shapes of an entity, on the artifact, or on which
failure is met first. The order is seen in one place only: in the report of a validation that fails.
-/

namespace SchemaHistory

open Traversal

set_option autoImplicit false

namespace Catalog

section SameSnapshots

variable {first second : Catalog} {config other : Config} {entity : Entity} {current : Version}
  {checkpoints others : List Version}

theorem snapshot_congr (sameSnapshots : first.snapshots = second.snapshots) (version : Version) :
    first.snapshot version = second.snapshot version := by
  unfold snapshot
  rw [sameSnapshots]

theorem shapes_congr (sameSnapshots : first.snapshots = second.snapshots)
    (sameMembers : ∀ version, version ∈ checkpoints ↔ version ∈ others) :
    first.shapes entity current checkpoints = second.shapes entity current others := by
  apply shapes_eq_of_periods (snapshotAt_congr (snapshot_congr sameSnapshots current))
  intro addedAt _ _ _ period _
  refine shape_congr rfl (describingVersion_congr ?_) (snapshot_congr sameSnapshots _)
  intro version _
  exact sameMembers version

theorem compile_eq_of_members (sameSnapshots : first.snapshots = second.snapshots)
    (sameName : config.artifactName = other.artifactName) (sameNaming : config.naming = other.naming)
    (sameCheck : first.check config = second.check other)
    (sameMembers : ∀ version,
      version ∈ first.checkpointsFor config ↔ version ∈ second.checkpointsFor other) :
    first.compile config current = second.compile other current := by
  have sameCurrent := snapshotAt_congr (snapshot_congr sameSnapshots current)
  apply compile_congr sameName sameCheck
  · rw [sameCurrent]
    apply Agree.of_self
    intro snapshot
    rfl
  · intro entity
    unfold entityBlocks
    rw [shapes_congr sameSnapshots sameMembers, sameNaming]

end SameSnapshots

variable {catalog : Catalog} {config : Config} {checkpoints others : List Version}

theorem checkpointsFor_congr (sameMembers : ∀ version, version ∈ checkpoints ↔ version ∈ others)
    (version : Version) :
    version ∈ catalog.checkpointsFor { config with checkpoints } ↔
      version ∈ catalog.checkpointsFor { config with checkpoints := others } := by
  have sameEmptiness : checkpoints = [] ↔ others = [] := by
    simp only [List.eq_nil_iff_forall_not_mem, sameMembers]
  unfold checkpointsFor
  simp only [sameEmptiness]
  split
  · exact Iff.rfl
  · exact sameMembers version

theorem checkpointsFor_withCheckpoints_congr
    (sameMembers : ∀ version, version ∈ checkpoints ↔ version ∈ others) (version : Version) :
    version ∈ (catalog.withCheckpoints checkpoints).checkpointsFor config ↔
      version ∈ (catalog.withCheckpoints others).checkpointsFor config := by
  unfold checkpointsFor
  split
  · exact sameMembers version
  · exact Iff.rfl

theorem Sound.withMembers (sound : (catalog.withCheckpoints checkpoints).Sound)
    (sameMembers : ∀ version, version ∈ checkpoints ↔ version ∈ others) :
    (catalog.withCheckpoints others).Sound where
  soundSnapshots := sound.soundSnapshots
  checkpointsKnown := by
    intro version member
    exact sound.checkpointsKnown version ((sameMembers version).2 member)

theorem validate_withCheckpoints_congr
    (sameMembers : ∀ version, version ∈ checkpoints ↔ version ∈ others) :
    (catalog.withCheckpoints checkpoints).validate = .ok () ↔
      (catalog.withCheckpoints others).validate = .ok () := by
  constructor
  · intro valid
    exact ((sound_of_valid valid).withMembers sameMembers).validate
  · intro valid
    exact ((sound_of_valid valid).withMembers fun version => (sameMembers version).symm).validate

/-- Lists of checkpoints with the same members are resolved to the same shapes. As the list of a
configuration they compile to the same, be it an artifact or a failure, and so they do as the list of
the catalog, where both pass validation or neither does, unless a validation is made that fails. -/
theorem checkpoints_count_as_set (catalog : Catalog) (config : Config) (current : Version)
    {checkpoints others : List Version}
    (sameMembers : ∀ version, version ∈ checkpoints ↔ version ∈ others) :
    (∀ entity, catalog.shapes entity current checkpoints = catalog.shapes entity current others) ∧
      catalog.compile { config with checkpoints } current =
        catalog.compile { config with checkpoints := others } current ∧
      ((catalog.withCheckpoints checkpoints).validate = .ok () ↔
        (catalog.withCheckpoints others).validate = .ok ()) ∧
      (config.validates = false ∨ (catalog.withCheckpoints checkpoints).validate = .ok () →
        (catalog.withCheckpoints checkpoints).compile config current =
          (catalog.withCheckpoints others).compile config current) := by
  have sameValidity : (catalog.withCheckpoints checkpoints).validate = .ok () ↔
      (catalog.withCheckpoints others).validate = .ok () :=
    validate_withCheckpoints_congr sameMembers
  refine ⟨fun entity => shapes_congr rfl sameMembers, ?_, sameValidity, ?_⟩
  · exact compile_eq_of_members rfl rfl rfl rfl (checkpointsFor_congr sameMembers)
  · intro passes
    have sameCheck : (catalog.withCheckpoints checkpoints).check config =
        (catalog.withCheckpoints others).check config := by
      unfold check
      rcases passes with unchecked | valid
      · simp only [unchecked, Bool.false_eq_true, if_false]
      · rw [valid, sameValidity.1 valid]
    exact compile_eq_of_members rfl rfl rfl sameCheck
      (checkpointsFor_withCheckpoints_congr sameMembers)

end Catalog

namespace Cinema

/-- The first two versions are a checkpoint each in both lists, and so is the version between them,
which has no snapshot. Each time the first shape of the genre is to be drawn from that one. -/
theorem halfway_in_any_order :
    (∀ version : Version, version ∈ [(⟨1, 0, 0⟩ : Version), ⟨1, 5, 0⟩] ↔
        version ∈ [(⟨1, 5, 0⟩ : Version), ⟨1, 0, 0⟩, ⟨1, 5, 0⟩]) ∧
      catalog.compile { checkpoints := [⟨1, 0, 0⟩, ⟨1, 5, 0⟩] } ⟨2, 0, 0⟩ =
        catalog.compile { checkpoints := [⟨1, 5, 0⟩, ⟨1, 0, 0⟩, ⟨1, 5, 0⟩] } ⟨2, 0, 0⟩ ∧
      catalog.compile { checkpoints := [⟨1, 0, 0⟩, ⟨1, 5, 0⟩] } ⟨2, 0, 0⟩ =
        .error (.missingSnapshot ⟨1, 5, 0⟩) ∧
      (catalog.withCheckpoints [⟨1, 0, 0⟩, ⟨1, 5, 0⟩]).compile { validates := false } ⟨2, 0, 0⟩ =
        (catalog.withCheckpoints [⟨1, 5, 0⟩, ⟨1, 0, 0⟩, ⟨1, 5, 0⟩]).compile { validates := false }
          ⟨2, 0, 0⟩ := by
  have sameMembers : ∀ version : Version, version ∈ [(⟨1, 0, 0⟩ : Version), ⟨1, 5, 0⟩] ↔
      version ∈ [(⟨1, 5, 0⟩ : Version), ⟨1, 0, 0⟩, ⟨1, 5, 0⟩] := by
    intro version
    simp only [List.mem_cons, List.not_mem_nil, or_false]
    tauto
  refine ⟨sameMembers, ?_, rfl, ?_⟩
  · exact (catalog.checkpoints_count_as_set {} ⟨2, 0, 0⟩ sameMembers).2.1
  · exact (catalog.checkpoints_count_as_set { validates := false } ⟨2, 0, 0⟩ sameMembers).2.2.2
      (Or.inl rfl)

end Cinema

end SchemaHistory
