import SchemaHistory.Proofs.DescribingVersion

/-!
What later releases leave as it is. A shape is drawn from a snapshot before the next boundary, so the
shapes before the latest boundary stay the same when the history goes on, and a model compiled for an
earlier target is the same whatever the catalog holds of later versions.
-/

namespace SchemaHistory

open Traversal

set_option autoImplicit false

/-- The other entity has the name of the first, and its history goes on from that of the first. -/
structure Entity.GrowsInto (entity grown : Entity) (further : List Version) : Prop where
  sameName : grown.name = entity.name
  samePreviousName : grown.previousName = entity.previousName
  labels : grown.labels = entity.labels ++ further

namespace Catalog

variable {first second : Catalog} {entity grown : Entity} {current later addedAt last : Version}
  {checkpoints others : List Version}

theorem snapshotAt_congr {version : Version}
    (same : first.snapshot version = second.snapshot version) :
    first.snapshotAt version = second.snapshotAt version := by
  unfold snapshotAt
  rw [same]

theorem shape_congr {period : Version × Version} (sameName : grown.name = entity.name)
    (sameVersion : describingVersion checkpoints current addedAt period.1 period.2 =
      describingVersion others later addedAt period.1 period.2)
    (sameSnapshot :
      first.snapshot (describingVersion others later addedAt period.1 period.2) =
        second.snapshot (describingVersion others later addedAt period.1 period.2)) :
    first.shape entity current addedAt checkpoints period =
      second.shape grown later addedAt others period := by
  unfold Catalog.shape
  simp only [sameVersion, sameName, snapshotAt_congr sameSnapshot]

/-- Before the last label of an ascending history, neither what is current nor anything later says from
which version a shape is drawn. -/
theorem shape_eq_of_period_before {before : List Version} {period : Version × Version}
    (sameName : grown.name = entity.name)
    (ascending : (addedAt :: before ++ [last]).Pairwise (· < ·))
    (reached : last ≤ current) (passed : last ≤ later)
    (sameSnapshots : ∀ version < last, first.snapshot version = second.snapshot version)
    (sameCheckpoints : ∀ version < last, version ∈ checkpoints ↔ version ∈ others)
    (member : period ∈ periods (addedAt :: before) last) :
    first.shape entity current addedAt checkpoints period =
      second.shape grown later addedAt others period := by
  have beforeLast : ∀ version ∈ addedAt :: before, version < last := by
    intro version isLabel
    exact (List.pairwise_append.1 ascending).2.2 version isLabel last List.mem_cons_self
  obtain ⟨isLabel, isBoundary⟩ := mem_periods member
  have labelBefore : period.1 < last := beforeLast period.1 isLabel
  have nextWithin : period.2 ≤ last := by
    rcases isBoundary with isNext | isLast
    · exact le_of_lt (beforeLast period.2 (List.mem_cons_of_mem addedAt isNext))
    · exact le_of_eq isLast
  have notCurrent : period.1 ≠ current := ne_of_lt (lt_of_lt_of_le labelBefore reached)
  have notLater : period.1 ≠ later := ne_of_lt (lt_of_lt_of_le labelBefore passed)
  have describedBefore : describingVersion others later addedAt period.1 period.2 < last := by
    rcases describingVersion_lt_or_eq notLater with beforeNext | isAddedAt
    · exact lt_of_lt_of_le beforeNext nextWithin
    · rw [isAddedAt]
      exact beforeLast addedAt List.mem_cons_self
  apply shape_congr sameName
  · rw [describingVersion_of_ne notCurrent, describingVersion_of_ne notLater]
    rw [latestCheckpoint_congr]
    intro version beforeNext
    exact sameCheckpoints version (lt_of_lt_of_le beforeNext nextWithin)
  · exact sameSnapshots _ describedBefore

theorem shapes_share_earlier {shapes grownShapes : List Shape} {further : List Version}
    (grows : entity.GrowsInto grown further) (ascending : entity.labels.Pairwise (· < ·))
    (isLast : entity.labels.getLast? = some last)
    (reached : last ≤ current) (passed : last ≤ later)
    (sameSnapshots : ∀ version < last, first.snapshot version = second.snapshot version)
    (sameCheckpoints : ∀ version < last, version ∈ checkpoints ↔ version ∈ others)
    (resolved : first.shapes entity current checkpoints = .ok shapes)
    (grownResolved : second.shapes grown later others = .ok grownShapes) :
    ∃ earlier own after, shapes = earlier ++ own ∧ grownShapes = earlier ++ after ∧
      own.map (·.label) = [last] ∧ after.map (·.label) = last :: further := by
  obtain ⟨before, labels⟩ := List.getLast?_eq_some_iff.1 isLast
  have grownLabels : grown.labels = before ++ last :: further := by
    rw [grows.labels, labels, List.append_assoc, List.singleton_append]
  -- An entity with one label only may have no history, and it has no earlier shapes.
  cases before with
  | nil =>
      refine ⟨[], shapes, grownShapes, rfl, rfl, ?_, ?_⟩
      · rw [shapes_labels resolved, labels, List.nil_append]
      · rw [shapes_labels grownResolved, grownLabels, List.nil_append]
  | cons addedAt before =>
      obtain ⟨added, history⟩ := Entity.history_of_labels labels (by simp)
      obtain ⟨grownAdded, grownHistory⟩ := Entity.history_of_labels grownLabels (by simp)
      rw [shapes_of_history added history, labels, periods_append, bind_eq_ok] at resolved
      rw [shapes_of_history grownAdded grownHistory, grownLabels, periods_append, bind_eq_ok]
        at grownResolved
      obtain ⟨-, -, drawn⟩ := resolved
      obtain ⟨-, -, grownDrawn⟩ := grownResolved
      obtain ⟨earlier, own, earlierDrawn, ownDrawn, rfl⟩ := mapM_append_eq_ok.1 drawn
      obtain ⟨grownEarlier, after, grownEarlierDrawn, afterDrawn, rfl⟩ :=
        mapM_append_eq_ok.1 grownDrawn
      -- Both runs start with the periods before the last label, the same list in both.
      have sameRun : (periods (addedAt :: before) last).mapM
            (first.shape entity current addedAt checkpoints) =
          (periods (addedAt :: before) last).mapM (second.shape grown later addedAt others) := by
        apply mapM_congr
        intro period member
        exact shape_eq_of_period_before grows.sameName (labels ▸ ascending) reached passed
          sameSnapshots sameCheckpoints member
      rw [sameRun, grownEarlierDrawn] at earlierDrawn
      obtain rfl := Except.ok.inj earlierDrawn
      refine ⟨grownEarlier, own, after, rfl, rfl, ?_, ?_⟩
      · rw [labels_of_mapM_shape ownDrawn, map_fst_periods]
      · rw [labels_of_mapM_shape afterDrawn, map_fst_periods]

/-- When the history of an entity goes on, its shapes before the last label stay as they are, whatever
the target, the snapshots and the checkpoints are from that label on: in both runs they are the same
shapes in the same places, and in each naming mode the same blocks or failures. -/
theorem earlier_shapes_stable {shapes grownShapes : List Shape} {further : List Version}
    (grows : entity.GrowsInto grown further) (ascending : entity.labels.Pairwise (· < ·))
    (isLast : entity.labels.getLast? = some last)
    (reached : last ≤ current) (passed : last ≤ later)
    (sameSnapshots : ∀ version < last, first.snapshot version = second.snapshot version)
    (sameCheckpoints : ∀ version < last, version ∈ checkpoints ↔ version ∈ others)
    (resolved : first.shapes entity current checkpoints = .ok shapes)
    (grownResolved : second.shapes grown later others = .ok grownShapes) :
    ∃ earlier own after, shapes = earlier ++ own ∧ grownShapes = earlier ++ after ∧
      earlier.map (·.label) ++ [last] = entity.labels ∧ own.map (·.label) = [last] ∧
      after.map (·.label) = last :: further ∧
      ∀ shape ∈ earlier, shape.label < last ∧
        ∀ mode, shape.block entity.previousName mode = shape.block grown.previousName mode := by
  obtain ⟨earlier, own, after, rfl, rfl, ownLabel, afterLabels⟩ :=
    shapes_share_earlier grows ascending isLast reached passed sameSnapshots sameCheckpoints resolved
      grownResolved
  have labels : earlier.map (·.label) ++ [last] = entity.labels := by
    rw [← shapes_labels resolved, List.map_append, ownLabel]
  refine ⟨earlier, own, after, rfl, rfl, labels, ownLabel, afterLabels, ?_⟩
  intro shape member
  constructor
  · rw [← labels] at ascending
    have isLabel : shape.label ∈ earlier.map (·.label) := List.mem_map_of_mem member
    exact (List.pairwise_append.1 ascending).2.2 shape.label isLabel last List.mem_cons_self
  · intro mode
    rw [grows.samePreviousName]

end Catalog

namespace Cinema

def announced : Catalog where
  snapshots :=
    [(⟨1, 0, 0⟩, { entities := [{ genre with name := "Category", mappings := none }] }),
      (⟨2, 0, 0⟩, { entities := [film, genre] }),
      (⟨2, 5, 0⟩, { entities := [genre.withProperty { name := "color", type := .scalar .color }] }),
      (⟨3, 0, 0⟩, { entities := [genre.withMapping ⟨3, 0, 0⟩] })]
  checkpoints := [⟨2, 5, 0⟩, ⟨1, 0, 0⟩]
  ascending := by unfold Ascending.Sorted; decide

def unchecked : Config where
  validates := false

theorem announced_snapshot (version : Version) (early : version ≤ ⟨2, 0, 0⟩) :
    catalog.snapshot version = announced.snapshot version := by
  have notAnnounced : ∀ other : Version, ⟨2, 0, 0⟩ < other → (version == other) = false := by
    intro other later
    rw [beq_eq_false_iff_ne]
    exact ne_of_lt (lt_of_le_of_lt early later)
  have notHalf := notAnnounced ⟨2, 5, 0⟩ (by decide)
  have notThird := notAnnounced ⟨3, 0, 0⟩ (by decide)
  simp only [Catalog.snapshot, catalog, announced, List.lookup_cons, List.lookup_nil, notHalf,
    notThird]

theorem announced_checkpoints (version : Version) (early : version < ⟨2, 0, 0⟩) :
    version ∈ catalog.checkpoints ↔ version ∈ announced.checkpoints := by
  have notHalf : version ≠ ⟨2, 5, 0⟩ := ne_of_lt (lt_trans early (by decide))
  simp [catalog, announced, notHalf]

theorem genre_keeps_first_shape :
    genre.labels.getLast? = some ⟨2, 0, 0⟩ ∧
      genre.GrowsInto (genre.withMapping ⟨3, 0, 0⟩) [⟨3, 0, 0⟩] ∧
      ∃ shapes grownShapes,
        catalog.shapes genre ⟨2, 0, 0⟩ catalog.checkpoints = .ok shapes ∧
        announced.shapes (genre.withMapping ⟨3, 0, 0⟩) ⟨3, 0, 0⟩ announced.checkpoints =
          .ok grownShapes ∧
        ∃ earlier own after, shapes = earlier ++ own ∧ grownShapes = earlier ++ after ∧
          earlier.map (·.label) ++ [⟨2, 0, 0⟩] = genre.labels ∧
          own.map (·.label) = [⟨2, 0, 0⟩] ∧ after.map (·.label) = [⟨2, 0, 0⟩, ⟨3, 0, 0⟩] ∧
          ∀ shape ∈ earlier, shape.label < ⟨2, 0, 0⟩ ∧
            ∀ mode, shape.block genre.previousName mode =
              shape.block (genre.withMapping ⟨3, 0, 0⟩).previousName mode := by
  have isLast : genre.labels.getLast? = some ⟨2, 0, 0⟩ := rfl
  have grows : genre.GrowsInto (genre.withMapping ⟨3, 0, 0⟩) [⟨3, 0, 0⟩] := ⟨rfl, rfl, rfl⟩
  obtain ⟨shapes, resolved⟩ :
      ∃ shapes, catalog.shapes genre ⟨2, 0, 0⟩ catalog.checkpoints = .ok shapes := ⟨_, rfl⟩
  obtain ⟨grownShapes, grownResolved⟩ :
      ∃ shapes, announced.shapes (genre.withMapping ⟨3, 0, 0⟩) ⟨3, 0, 0⟩ announced.checkpoints =
        .ok shapes := ⟨_, rfl⟩
  refine ⟨isLast, grows, shapes, grownShapes, resolved, grownResolved, ?_⟩
  apply Catalog.earlier_shapes_stable grows (by decide) isLast (by decide) (by decide) _
    announced_checkpoints resolved grownResolved
  intro version early
  exact announced_snapshot version (le_of_lt early)

end Cinema

namespace Catalog

variable {first second : Catalog} {entity : Entity} {current : Version}
  {checkpoints others : List Version}

theorem shapes_eq_of_reached
    (sameSnapshots : ∀ version ≤ current, first.snapshot version = second.snapshot version)
    (sameCheckpoints : ∀ version < current, version ∈ checkpoints ↔ version ∈ others)
    (reached : ∀ mappings, entity.mappings = some mappings →
      (∀ addedAt, entity.addedAt = some addedAt → addedAt ≤ current) ∧
        ∀ target ∈ mappings, target ≤ current) :
    first.shapes entity current checkpoints = second.shapes entity current others := by
  apply shapes_eq_of_periods (snapshotAt_congr (sameSnapshots current (le_refl current)))
  intro addedAt mappings added history period member
  obtain ⟨addedReached, targetsReached⟩ := reached mappings history
  have nextReached : period.2 ≤ current := by
    rcases (mem_periods member).2 with isTarget | isCurrent
    · exact targetsReached period.2 isTarget
    · exact le_of_eq isCurrent
  have sameBefore : ∀ version < period.2, version ∈ checkpoints ↔ version ∈ others :=
    fun version beforeNext => sameCheckpoints version (lt_of_lt_of_le beforeNext nextReached)
  apply shape_congr rfl (describingVersion_congr sameBefore)
  apply sameSnapshots
  exact describingVersion_le (addedReached addedAt added) nextReached

/-- Snapshots and checkpoints that are later than the target have no influence on what is compiled for
it, be it an artifact or a failure. -/
theorem compile_ignores_later_releases {config : Config} (unchecked : config.validates = false)
    (sameSnapshots : ∀ version ≤ current, first.snapshot version = second.snapshot version)
    (sameCheckpoints : ∀ version < current,
      version ∈ first.checkpoints ↔ version ∈ second.checkpoints)
    (reached : ∀ snapshot, first.snapshot current = .ok snapshot →
      ∀ entity ∈ snapshot.persisted, ∀ mappings, entity.mappings = some mappings →
        (∀ addedAt, entity.addedAt = some addedAt → addedAt ≤ current) ∧
          ∀ target ∈ mappings, target ≤ current) :
    first.compile config current = second.compile config current := by
  have sameChosen : ∀ version < current,
      version ∈ first.checkpointsFor config ↔ version ∈ second.checkpointsFor config := by
    unfold checkpointsFor
    split
    · exact sameCheckpoints
    · exact fun _ _ => Iff.rfl
  have sameCurrent := sameSnapshots current (le_refl current)
  have sameCheck : first.check config = second.check config := by
    unfold check
    simp only [unchecked, Bool.false_eq_true, if_false]
  have sameDocument : first.document config current = second.document config current := by
    unfold document
    rw [sameCheck, snapshotAt_congr sameCurrent]
    apply bind_eq_of_ok
    intro _ _
    apply bind_eq_of_ok
    intro snapshot found
    have foundFirst : first.snapshot current = .ok snapshot := by
      rw [sameCurrent]
      exact snapshotAt_eq_ok.1 found
    have sameBlocks : snapshot.persisted.mapM (first.entityBlocks config current) =
        snapshot.persisted.mapM (second.entityBlocks config current) := by
      apply mapM_congr
      intro entity member
      unfold entityBlocks
      rw [shapes_eq_of_reached sameSnapshots sameChosen (reached snapshot foundFirst entity member)]
    rw [sameBlocks]
  unfold compile
  rw [sameDocument]

end Catalog

namespace Cinema

theorem announcement_keeps_second_version :
    (∀ version ≤ ⟨2, 0, 0⟩, catalog.snapshot version = announced.snapshot version) ∧
      (∀ version < ⟨2, 0, 0⟩, version ∈ catalog.checkpoints ↔ version ∈ announced.checkpoints) ∧
      catalog.compile unchecked ⟨2, 0, 0⟩ = announced.compile unchecked ⟨2, 0, 0⟩ ∧
      catalog.compile unchecked ⟨3, 0, 0⟩ ≠ announced.compile unchecked ⟨3, 0, 0⟩ := by
  have reached : ∀ snapshot, catalog.snapshot ⟨2, 0, 0⟩ = .ok snapshot →
      ∀ entity ∈ snapshot.persisted, ∀ mappings, entity.mappings = some mappings →
        (∀ addedAt, entity.addedAt = some addedAt → addedAt ≤ ⟨2, 0, 0⟩) ∧
          ∀ target ∈ mappings, target ≤ ⟨2, 0, 0⟩ := by
    intro snapshot found
    obtain rfl := Except.ok.inj found
    decide
  refine ⟨announced_snapshot, announced_checkpoints, ?_, ?_⟩
  · exact Catalog.compile_ignores_later_releases rfl announced_snapshot announced_checkpoints reached
  · obtain ⟨artifact, succeeds⟩ :
        ∃ artifact, announced.compile unchecked ⟨3, 0, 0⟩ = .ok artifact := ⟨_, rfl⟩
    have fails : catalog.compile unchecked ⟨3, 0, 0⟩ =
        .error (.property "Film" "studio" ⟨2, 0, 0⟩ (.lookup (.unknownEntity "Studio"))) := rfl
    rw [fails, succeeds]
    simp

end Cinema

end SchemaHistory
