import SchemaHistory.Proofs.DescribingVersion

/-!
The rule by which the shapes of an entity are resolved. Without a history the one shape is that of the
current snapshot. With a history each label has a shape of its own, and what counts for it is its place:
the label itself and the boundary after it decide on the version that describes it. The first place
whose version has no snapshot is the failure.
-/

namespace SchemaHistory

open Traversal

set_option autoImplicit false

namespace Version

def OfOtherRelease (version label : Version) : Prop :=
  version.major ≠ label.major ∨ version.minor ≠ label.minor

theorem isEligible_iff {version label next : Version} :
    version.IsEligible label next ↔ version < next ∧ version.OfOtherRelease label := by
  unfold IsEligible OfOtherRelease sameRelease
  rw [Bool.and_eq_false_iff, beq_eq_false_iff_ne, beq_eq_false_iff_ne]

end Version

/-- The current version is described by itself, and any other label by the latest checkpoint before the
next boundary that is of another release, or by the version that added the entity if there is none. -/
inductive DescribedBy (checkpoints : List Version) (current addedAt label next : Version) :
    Version → Prop where
  | itself (isCurrent : label = current) : DescribedBy checkpoints current addedAt label next current
  | checkpoint {version : Version} (notCurrent : label ≠ current) (member : version ∈ checkpoints)
      (before : version < next) (otherRelease : version.OfOtherRelease label)
      (latest : ∀ other ∈ checkpoints, other < next → other.OfOtherRelease label → other ≤ version) :
      DescribedBy checkpoints current addedAt label next version
  | addition (notCurrent : label ≠ current)
      (none : ∀ other ∈ checkpoints, other < next → ¬other.OfOtherRelease label) :
      DescribedBy checkpoints current addedAt label next addedAt

section Boundary

variable {checkpoints : List Version} {current addedAt label next version : Version}

theorem describedBy_iff :
    DescribedBy checkpoints current addedAt label next version ↔
      describingVersion checkpoints current addedAt label next = version := by
  constructor
  · intro described
    cases described with
    | itself isCurrent => exact describingVersion_of_eq isCurrent
    | checkpoint notCurrent member before otherRelease latest =>
        have isLatest : latestCheckpoint checkpoints label next = some version := by
          apply latestCheckpoint_eq_some.2
          refine ⟨⟨member, Version.isEligible_iff.2 ⟨before, otherRelease⟩⟩, ?_⟩
          intro other otherMember eligible
          rw [Version.isEligible_iff] at eligible
          exact latest other otherMember eligible.1 eligible.2
        rw [describingVersion_of_ne notCurrent, isLatest, Option.getD_some]
    | addition notCurrent none =>
        have noLatest : latestCheckpoint checkpoints label next = Option.none := by
          apply latestCheckpoint_eq_none.2
          intro other member eligible
          rw [Version.isEligible_iff] at eligible
          exact none other member eligible.1 eligible.2
        rw [describingVersion_of_ne notCurrent, noLatest, Option.getD_none]
  · intro isDescribing
    subst isDescribing
    by_cases isCurrent : label = current
    · rw [describingVersion_of_eq isCurrent]
      exact .itself isCurrent
    · rw [describingVersion_of_ne isCurrent]
      cases latest : latestCheckpoint checkpoints label next with
      | none =>
          rw [Option.getD_none]
          rw [latestCheckpoint_eq_none] at latest
          apply DescribedBy.addition isCurrent
          intro other member before otherRelease
          exact latest other member (Version.isEligible_iff.2 ⟨before, otherRelease⟩)
      | some version =>
          rw [Option.getD_some]
          rw [latestCheckpoint_eq_some, Version.isEligible_iff] at latest
          rcases latest with ⟨⟨member, before, otherRelease⟩, greatest⟩
          apply DescribedBy.checkpoint isCurrent member before otherRelease
          intro other otherMember otherBefore ofOther
          exact greatest other otherMember (Version.isEligible_iff.2 ⟨otherBefore, ofOther⟩)

theorem DescribedBy.checkpoint_or_addition
    (described : DescribedBy checkpoints current addedAt label next version)
    (notCurrent : label ≠ current) :
    (version ∈ checkpoints ∧ version.OfOtherRelease label ∧ version < next) ∨ version = addedAt := by
  cases described with
  | itself isCurrent => exact absurd isCurrent notCurrent
  | checkpoint _ member before otherRelease _ => exact Or.inl ⟨member, otherRelease, before⟩
  | addition => exact Or.inr rfl

end Boundary

def boundaryAfter (labels : List Version) (final : Version) (index : Nat) : Version :=
  labels[index + 1]?.getD final

theorem periods_cons (label : Version) (labels : List Version) (final : Version) :
    periods (label :: labels) final = (label, labels.head?.getD final) :: periods labels final := by
  cases labels <;> rfl

theorem periods_at (labels : List Version) (final : Version) (index : Nat) :
    (periods labels final)[index]? =
      labels[index]?.map fun label => (label, boundaryAfter labels final index) := by
  induction labels generalizing index with
  | nil => rfl
  | cons label labels ih =>
      rw [periods_cons]
      cases index with
      | zero => simp [boundaryAfter, List.head?_eq_getElem?]
      | succ index =>
          rw [List.getElem?_cons_succ, ih, List.getElem?_cons_succ]
          rfl

theorem mem_periods_at {labels : List Version} {final : Version} {index : Nat}
    {period : Version × Version} :
    (periods labels final)[index]? = some period ↔
      labels[index]? = some period.1 ∧ boundaryAfter labels final index = period.2 := by
  rw [periods_at, Option.map_eq_some_iff]
  constructor
  · intro found
    rcases found with ⟨label, isLabel, rfl⟩
    exact ⟨isLabel, rfl⟩
  · intro found
    exact ⟨period.1, found.1, by rw [found.2]⟩

namespace Catalog

variable {catalog : Catalog} {entity : Entity} {current addedAt : Version}
  {checkpoints : List Version} {shapes : List Shape} {index : Nat}

theorem snapshot_eq_missing {version : Version} :
    catalog.snapshot version = .error (.missingSnapshot version) ↔ version ∉ catalog.versions := by
  simp [snapshot_eq_error]

def DescribesAt (current : Version) (checkpoints : List Version) (addedAt : Version)
    (labels : List Version) (index : Nat) (version : Version) : Prop :=
  ∃ label, labels[index]? = some label ∧
    DescribedBy checkpoints current addedAt label (boundaryAfter labels current index) version

/-- The shape is that of the label at this place, drawn from the snapshot of the version that describes
it. -/
def IsShapeAt (catalog : Catalog) (entity : Entity) (current : Version) (checkpoints : List Version)
    (addedAt : Version) (labels : List Version) (index : Nat) (shape : Shape) : Prop :=
  labels[index]? = some shape.label ∧
    DescribedBy checkpoints current addedAt shape.label (boundaryAfter labels current index)
      shape.drawnFrom ∧
    catalog.snapshot shape.drawnFrom = .ok shape.snapshot ∧
    shape.entityName = entity.name ∧ shape.previousName = none

section Place

variable {labels : List Version} {period : Version × Version} {shape : Shape}

theorem isShapeAt_iff (isPeriod : (periods labels current)[index]? = some period) :
    catalog.shape entity current addedAt checkpoints period = .ok shape ↔
      catalog.IsShapeAt entity current checkpoints addedAt labels index shape := by
  rcases mem_periods_at.1 isPeriod with ⟨isLabel, isBoundary⟩
  rw [shape_eq_ok]
  constructor
  · intro drawn
    rcases drawn with ⟨snapshot, found, rfl⟩
    refine ⟨isLabel, ?_, found, rfl, rfl⟩
    rw [isBoundary]
    exact describedBy_iff.2 rfl
  · intro isShape
    rcases isShape with ⟨isOwnLabel, described, found, sameName, noFormerName⟩
    have sameLabel : period.1 = shape.label := Option.some.inj (isLabel.symm.trans isOwnLabel)
    rw [isBoundary, ← sameLabel, describedBy_iff] at described
    refine ⟨shape.snapshot, ?_, ?_⟩
    · rw [described]
      exact found
    · rw [described, sameLabel, ← sameName, ← noFormerName]

theorem describesAt_iff (isPeriod : (periods labels current)[index]? = some period)
    {version : Version} :
    DescribesAt current checkpoints addedAt labels index version ↔
      describingVersion checkpoints current addedAt period.1 period.2 = version := by
  rcases mem_periods_at.1 isPeriod with ⟨isLabel, isBoundary⟩
  unfold DescribesAt
  rw [isLabel, isBoundary]
  simp [describedBy_iff]

theorem noShapeAt_iff (isPeriod : (periods labels current)[index]? = some period)
    {error : CompileError} :
    catalog.shape entity current addedAt checkpoints period = .error error ↔
      ∃ version, DescribesAt current checkpoints addedAt labels index version ∧
        version ∉ catalog.versions ∧ error = .missingSnapshot version := by
  simp [shape_eq_error, snapshot_eq_missing, describesAt_iff isPeriod]

theorem someShapeAt_iff (isPeriod : (periods labels current)[index]? = some period) :
    (∃ shape, catalog.shape entity current addedAt checkpoints period = .ok shape) ↔
      ∃ version ∈ catalog.versions,
        DescribesAt current checkpoints addedAt labels index version := by
  simp only [shape_eq_ok, describesAt_iff isPeriod, mem_versions_iff]
  constructor
  · intro drawn
    rcases drawn with ⟨shape, snapshot, found, -⟩
    exact ⟨_, ⟨snapshot, found⟩, rfl⟩
  · intro known
    rcases known with ⟨version, ⟨snapshot, found⟩, rfl⟩
    exact ⟨_, snapshot, found, rfl⟩

theorem length_periods (labels : List Version) (final : Version) :
    (periods labels final).length = labels.length := by
  rw [← List.length_map Prod.fst, map_fst_periods]

theorem drawn_iff :
    (periods labels current).mapM (catalog.shape entity current addedAt checkpoints) = .ok shapes ↔
      shapes.length = labels.length ∧ ∀ (index : Nat) (shape : Shape), shapes[index]? = some shape →
        catalog.IsShapeAt entity current checkpoints addedAt labels index shape := by
  rw [mapM_eq_ok, forall₂_at, length_periods, eq_comm]
  apply and_congr_right
  intro sameLength
  constructor
  · intro drawn index shape isShape
    have bound : index < (periods labels current).length := by
      rw [length_periods, ← sameLength]
      exact (List.getElem?_eq_some_iff.1 isShape).1
    have isPeriod := List.getElem?_eq_getElem bound
    exact (isShapeAt_iff isPeriod).1 (drawn index _ shape isPeriod isShape)
  · intro inPlace index period shape isPeriod isShape
    exact (isShapeAt_iff isPeriod).2 (inPlace index shape isShape)

theorem undrawn_iff {error : CompileError} :
    (periods labels current).mapM (catalog.shape entity current addedAt checkpoints) =
        .error error ↔
      ∃ index version, DescribesAt current checkpoints addedAt labels index version ∧
        version ∉ catalog.versions ∧
        (∀ fewer < index, ∃ earlier ∈ catalog.versions,
          DescribesAt current checkpoints addedAt labels fewer earlier) ∧
        error = .missingSnapshot version := by
  rw [mapM_eq_error, first_failure_at]
  constructor
  · intro failure
    rcases failure with ⟨index, period, isPeriod, fails, succeeds⟩
    rcases (noShapeAt_iff isPeriod).1 fails with ⟨version, describes, unknown, isError⟩
    refine ⟨index, version, describes, unknown, ?_, isError⟩
    intro fewer less
    have bound : fewer < (periods labels current).length :=
      Nat.lt_trans less (List.getElem?_eq_some_iff.1 isPeriod).1
    have isEarlier := List.getElem?_eq_getElem bound
    exact (someShapeAt_iff isEarlier).1 (succeeds fewer less _ isEarlier)
  · intro failure
    rcases failure with ⟨index, version, describes, unknown, earlierKnown, isError⟩
    rcases id describes with ⟨label, isLabel, -⟩
    have isPeriod : (periods labels current)[index]? =
        some (label, boundaryAfter labels current index) := by
      rw [periods_at, isLabel]
      rfl
    refine ⟨index, _, isPeriod, (noShapeAt_iff isPeriod).2 ⟨version, describes, unknown, isError⟩, ?_⟩
    intro fewer less earlier isEarlier
    exact (someShapeAt_iff isEarlier).2 (earlierKnown fewer less)

end Place

/-- What resolving the shapes of an entity comes to. -/
inductive Resolves (catalog : Catalog) (entity : Entity) (current : Version)
    (checkpoints : List Version) : Except CompileError (List Shape) → Prop where
  | unknownVersion (unknown : current ∉ catalog.versions) :
      Resolves catalog entity current checkpoints (.error (.missingSnapshot current))
  | neverAdded (known : current ∈ catalog.versions) (notAdded : entity.addedAt = none) :
      Resolves catalog entity current checkpoints (.error (.missingAddedAt entity.name))
  | withoutHistory {snapshot : Snapshot} {addedAt : Version}
      (found : catalog.snapshot current = .ok snapshot) (added : entity.addedAt = some addedAt)
      (noHistory : entity.mappings = none) :
      Resolves catalog entity current checkpoints
        (.ok [{ entityName := entity.name, label := addedAt, drawnFrom := current, snapshot
                previousName := entity.previousName }])
  | withHistory {addedAt : Version} {mappings : List Version} {shapes : List Shape}
      (known : current ∈ catalog.versions) (added : entity.addedAt = some addedAt)
      (history : entity.mappings = some mappings)
      (oneForEach : shapes.length = (addedAt :: mappings).length)
      (inPlace : ∀ index shape, shapes[index]? = some shape →
        catalog.IsShapeAt entity current checkpoints addedAt (addedAt :: mappings) index shape) :
      Resolves catalog entity current checkpoints (.ok shapes)
  | undescribed {addedAt version : Version} {mappings : List Version} {index : Nat}
      (known : current ∈ catalog.versions) (added : entity.addedAt = some addedAt)
      (history : entity.mappings = some mappings)
      (described : DescribesAt current checkpoints addedAt (addedAt :: mappings) index version)
      (unknown : version ∉ catalog.versions)
      (earlierKnown : ∀ fewer < index, ∃ earlier ∈ catalog.versions,
        DescribesAt current checkpoints addedAt (addedAt :: mappings) fewer earlier) :
      Resolves catalog entity current checkpoints (.error (.missingSnapshot version))

theorem shapes_of_resolves {result : Except CompileError (List Shape)}
    (resolves : catalog.Resolves entity current checkpoints result) :
    catalog.shapes entity current checkpoints = result := by
  cases resolves with
  | unknownVersion unknown =>
      rw [← snapshot_eq_missing] at unknown
      exact shapes_eq_error.2 (Or.inl (snapshotAt_eq_error.2 ⟨unknown, rfl⟩))
  | neverAdded known notAdded =>
      rcases mem_versions_iff.1 known with ⟨snapshot, found⟩
      exact shapes_eq_error.2 (Or.inr ⟨snapshot, found, Or.inl ⟨notAdded, rfl⟩⟩)
  | withoutHistory found added noHistory =>
      exact shapes_eq_ok.2 ⟨_, _, found, added, Or.inl ⟨noHistory, rfl⟩⟩
  | withHistory known added history oneForEach inPlace =>
      rcases mem_versions_iff.1 known with ⟨snapshot, found⟩
      have drawn := drawn_iff.2 ⟨oneForEach, inPlace⟩
      exact shapes_eq_ok.2 ⟨snapshot, _, found, added, Or.inr ⟨_, history, mapM_eq_ok.1 drawn⟩⟩
  | @undescribed addedAt version mappings _ known added history described unknown earlierKnown =>
      rcases mem_versions_iff.1 known with ⟨snapshot, found⟩
      have undrawn : (periods (addedAt :: mappings) current).mapM
          (catalog.shape entity current addedAt checkpoints) = .error (.missingSnapshot version) :=
        undrawn_iff.2 ⟨_, _, described, unknown, earlierKnown, rfl⟩
      exact shapes_eq_error.2
        (Or.inr ⟨snapshot, found, Or.inr ⟨_, _, added, history, mapM_eq_error.1 undrawn⟩⟩)

theorem resolves_shapes (catalog : Catalog) (entity : Entity) (current : Version)
    (checkpoints : List Version) :
    catalog.Resolves entity current checkpoints (catalog.shapes entity current checkpoints) := by
  cases resolved : catalog.shapes entity current checkpoints with
  | ok shapes =>
      rcases shapes_eq_ok.1 resolved with
        ⟨snapshot, addedAt, found, added, ⟨noHistory, rfl⟩ | ⟨mappings, history, drawn⟩⟩
      · exact .withoutHistory found added noHistory
      · rcases drawn_iff.1 (mapM_eq_ok.2 drawn) with ⟨oneForEach, inPlace⟩
        exact .withHistory (mem_versions_iff.2 ⟨snapshot, found⟩) added history oneForEach inPlace
  | error error =>
      rcases shapes_eq_error.1 resolved with
        missing | ⟨snapshot, found, ⟨notAdded, rfl⟩ | ⟨addedAt, mappings, added, history, failure⟩⟩
      · rcases snapshotAt_eq_error.1 missing with ⟨unknown, rfl⟩
        exact .unknownVersion (snapshot_eq_missing.1 unknown)
      · exact .neverAdded (mem_versions_iff.2 ⟨snapshot, found⟩) notAdded
      · rcases undrawn_iff.1 (mapM_eq_error.2 failure) with
          ⟨index, version, described, unknown, earlierKnown, rfl⟩
        exact .undescribed (mem_versions_iff.2 ⟨snapshot, found⟩) added history described unknown
          earlierKnown

theorem drawnFrom_of_history {mappings : List Version} {shape : Shape}
    (added : entity.addedAt = some addedAt) (history : entity.mappings = some mappings)
    (resolved : catalog.shapes entity current checkpoints = .ok shapes)
    (isShape : shapes[index]? = some shape) (notCurrent : shape.label ≠ current) :
    (shape.drawnFrom ∈ checkpoints ∧ shape.drawnFrom.OfOtherRelease shape.label ∧
        shape.drawnFrom < boundaryAfter (addedAt :: mappings) current index) ∨
      shape.drawnFrom = addedAt := by
  rw [shapes_of_history added history, Entity.labels_of_history added history, bind_eq_ok] at resolved
  rcases resolved with ⟨-, -, drawn⟩
  rcases drawn_iff.1 drawn with ⟨-, inPlace⟩
  rcases inPlace index shape isShape with ⟨-, described, -⟩
  exact described.checkpoint_or_addition notCurrent

/-- Resolving gives what the rule says and nothing else. In a history, a shape of another label than the
current version is drawn from a checkpoint before the next boundary that is of another release, or from
the version that added the entity; so it is drawn from before that boundary when the entity was added
before it. -/
theorem resolves_iff (catalog : Catalog) (entity : Entity) (current : Version)
    (checkpoints : List Version) :
    (∀ result, catalog.Resolves entity current checkpoints result ↔
        catalog.shapes entity current checkpoints = result) ∧
      ∀ addedAt mappings shapes, entity.addedAt = some addedAt → entity.mappings = some mappings →
        catalog.shapes entity current checkpoints = .ok shapes →
        ∀ (index : Nat) (shape : Shape), shapes[index]? = some shape → shape.label ≠ current →
          ((shape.drawnFrom ∈ checkpoints ∧ shape.drawnFrom.OfOtherRelease shape.label ∧
                shape.drawnFrom < boundaryAfter (addedAt :: mappings) current index) ∨
              shape.drawnFrom = addedAt) ∧
            (addedAt < boundaryAfter (addedAt :: mappings) current index →
              shape.drawnFrom < boundaryAfter (addedAt :: mappings) current index) := by
  constructor
  · intro result
    constructor
    · exact shapes_of_resolves
    · intro isResult
      rw [← isResult]
      exact catalog.resolves_shapes entity current checkpoints
  · intro addedAt mappings shapes added history resolved index shape isShape notCurrent
    have drawnFrom := drawnFrom_of_history added history resolved isShape notCurrent
    refine ⟨drawnFrom, ?_⟩
    intro addedBefore
    rcases drawnFrom with ⟨-, -, before⟩ | isAddedAt
    · exact before
    · rw [isAddedAt]
      exact addedBefore

end Catalog

namespace Cinema

/-- A festival whose history does not ascend: an older version stands after the current one. -/
def festival : Entity where
  name := "Festival"
  isPersisted := true
  addedAt := some ⟨1, 0, 0⟩
  mappings := some [⟨3, 0, 0⟩, ⟨2, 0, 0⟩]

def festivalCatalog : Catalog where
  snapshots :=
    [(⟨1, 0, 0⟩, { entities := [{ festival with mappings := none }] }),
      (⟨2, 1, 0⟩, { entities := [{ festival with mappings := none }] }),
      (⟨3, 0, 0⟩, { entities := [festival] })]
  checkpoints := [⟨1, 0, 1⟩, ⟨2, 0, 1⟩, ⟨2, 1, 0⟩]
  ascending := by unfold Ascending.Sorted; decide

/-- A checkpoint of the own release describes neither the first label nor the last. With a checkpoint
that has no snapshot the first label is the one that fails. -/
theorem festival_resolves :
    (∃ shapes, festivalCatalog.Resolves festival ⟨3, 0, 0⟩ festivalCatalog.checkpoints (.ok shapes) ∧
        shapes.map (fun shape => (shape.label, shape.drawnFrom)) =
          [(⟨1, 0, 0⟩, ⟨2, 1, 0⟩), (⟨3, 0, 0⟩, ⟨3, 0, 0⟩), (⟨2, 0, 0⟩, ⟨2, 1, 0⟩)] ∧
        ∀ shape, shapes[2]? = some shape →
          shape.drawnFrom.OfOtherRelease shape.label ∧ shape.drawnFrom < ⟨3, 0, 0⟩) ∧
      festivalCatalog.Resolves festival ⟨3, 0, 0⟩ [⟨2, 2, 0⟩]
        (.error (.missingSnapshot ⟨2, 2, 0⟩)) := by
  have added : festival.addedAt = some ⟨1, 0, 0⟩ := rfl
  have history : festival.mappings = some [⟨3, 0, 0⟩, ⟨2, 0, 0⟩] := rfl
  have rule := Catalog.resolves_iff festivalCatalog festival ⟨3, 0, 0⟩
  obtain ⟨shapes, resolved, drawn⟩ : ∃ shapes,
      festivalCatalog.shapes festival ⟨3, 0, 0⟩ festivalCatalog.checkpoints = .ok shapes ∧
        shapes.map (fun shape => (shape.label, shape.drawnFrom)) =
          [(⟨1, 0, 0⟩, ⟨2, 1, 0⟩), (⟨3, 0, 0⟩, ⟨3, 0, 0⟩), (⟨2, 0, 0⟩, ⟨2, 1, 0⟩)] := ⟨_, rfl, rfl⟩
  refine ⟨⟨shapes, ((rule _).1 _).2 resolved, drawn, ?_⟩, ((rule _).1 _).2 rfl⟩
  intro shape isShape
  have isPlace : (shapes.map fun shape => (shape.label, shape.drawnFrom))[2]? =
      some (shape.label, shape.drawnFrom) := by
    rw [List.getElem?_map, isShape]
    rfl
  rw [drawn] at isPlace
  have isPair : ((⟨2, 0, 0⟩, ⟨2, 1, 0⟩) : Version × Version) = (shape.label, shape.drawnFrom) :=
    Option.some.inj isPlace
  obtain ⟨isLabel, isDrawnFrom⟩ := Prod.mk.inj isPair
  have notCurrent : shape.label ≠ ⟨3, 0, 0⟩ := by
    rw [← isLabel]
    decide
  rcases (rule _).2 _ _ shapes added history resolved 2 shape isShape notCurrent with
    ⟨⟨-, otherRelease, before⟩ | isAddedAt, -⟩
  · exact ⟨otherRelease, before⟩
  · rw [← isDrawnFrom] at isAddedAt
    exact absurd isAddedAt (by decide)

end Cinema

end SchemaHistory
