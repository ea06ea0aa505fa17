import SchemaHistory.Proofs.Compilation

/-!
Which version describes a boundary, said without the search for it: of the eligible checkpoints the
latest. So only checkpoints before the next boundary count, and whatever is later does not. There is
no bound from below: when none of the checkpoints from the time of the entity is eligible, one from
before that time is taken, although the catalog has the snapshot that describes the boundary.
-/

namespace SchemaHistory

open Traversal

set_option autoImplicit false

/-- The snapshot of the version may describe the label up to the next boundary. -/
def Version.IsEligible (version label next : Version) : Prop :=
  version < next ∧ version.sameRelease label = false

instance (version label next : Version) : Decidable (version.IsEligible label next) :=
  inferInstanceAs (Decidable (_ ∧ _))

section Choice

variable {checkpoints : List Version} {current addedAt label next : Version}

theorem latestCheckpoint_eq_some {version : Version} :
    latestCheckpoint checkpoints label next = some version ↔
      (version ∈ checkpoints ∧ version.IsEligible label next) ∧
        ∀ other ∈ checkpoints, other.IsEligible label next → other ≤ version := by
  unfold latestCheckpoint Version.IsEligible
  rw [List.max?_eq_some_iff]
  simp only [List.mem_filter, Bool.and_eq_true, decide_eq_true_eq, Bool.not_eq_true', and_imp]

theorem latestCheckpoint_eq_none :
    latestCheckpoint checkpoints label next = none ↔
      ∀ version ∈ checkpoints, ¬version.IsEligible label next := by
  unfold latestCheckpoint Version.IsEligible
  rw [List.max?_eq_none_iff, List.filter_eq_nil_iff]
  simp only [Bool.and_eq_true, decide_eq_true_eq, Bool.not_eq_true']

theorem latestCheckpoint_congr {others : List Version}
    (same : ∀ version < next, version ∈ checkpoints ↔ version ∈ others) :
    latestCheckpoint checkpoints label next = latestCheckpoint others label next := by
  cases latest : latestCheckpoint others label next with
  | none =>
      rw [latestCheckpoint_eq_none] at latest ⊢
      intro version member eligible
      exact latest version ((same version eligible.1).1 member) eligible
  | some version =>
      rw [latestCheckpoint_eq_some] at latest ⊢
      obtain ⟨⟨member, eligible⟩, greatest⟩ := latest
      refine ⟨⟨(same version eligible.1).2 member, eligible⟩, ?_⟩
      intro other otherMember otherEligible
      exact greatest other ((same other otherEligible.1).1 otherMember) otherEligible

theorem describingVersion_of_ne (different : label ≠ current) :
    describingVersion checkpoints current addedAt label next =
      (latestCheckpoint checkpoints label next).getD addedAt := if_neg different

theorem describingVersion_of_eq (same : label = current) :
    describingVersion checkpoints current addedAt label next = current := by
  unfold describingVersion
  rw [if_pos same, same]

theorem describingVersion_lt_or_eq (different : label ≠ current) :
    describingVersion checkpoints current addedAt label next < next ∨
      describingVersion checkpoints current addedAt label next = addedAt := by
  rw [describingVersion_of_ne different]
  cases latest : latestCheckpoint checkpoints label next with
  | none => exact Or.inr rfl
  | some version => exact Or.inl (latestCheckpoint_mem latest).2.1

theorem describingVersion_congr {others : List Version}
    (same : ∀ version < next, version ∈ checkpoints ↔ version ∈ others) :
    describingVersion checkpoints current addedAt label next =
      describingVersion others current addedAt label next := by
  unfold describingVersion
  rw [latestCheckpoint_congr same]

theorem describingVersion_le (addedReached : addedAt ≤ current) (nextReached : next ≤ current) :
    describingVersion checkpoints current addedAt label next ≤ current := by
  by_cases isCurrent : label = current
  · exact le_of_eq (describingVersion_of_eq isCurrent)
  · rcases describingVersion_lt_or_eq isCurrent with beforeNext | isAddedAt
    · exact le_trans (le_of_lt beforeNext) nextReached
    · rw [isAddedAt]
      exact addedReached

/-- For the period some checkpoint from before the entity is eligible, and none since then. -/
def ReachesBack (checkpoints : List Version) (current addedAt : Version)
    (period : Version × Version) : Prop :=
  period.1 ≠ current ∧
    (∃ version ∈ checkpoints, version < addedAt ∧ version.IsEligible period.1 period.2) ∧
    ∀ version ∈ checkpoints, addedAt ≤ version → ¬version.IsEligible period.1 period.2

instance (checkpoints : List Version) (current addedAt : Version) (period : Version × Version) :
    Decidable (ReachesBack checkpoints current addedAt period) :=
  inferInstanceAs (Decidable (_ ∧ _ ∧ _))

theorem latestCheckpoint_getD_lt :
    (latestCheckpoint checkpoints label next).getD addedAt < addedAt ↔
      (∃ version ∈ checkpoints, version < addedAt ∧ version.IsEligible label next) ∧
        ∀ version ∈ checkpoints, addedAt ≤ version → ¬version.IsEligible label next := by
  cases latest : latestCheckpoint checkpoints label next with
  | none =>
      have noneEligible := latestCheckpoint_eq_none.1 latest
      constructor
      · intro earlier
        exact absurd earlier (lt_irrefl addedAt)
      · intro reachesBack
        obtain ⟨⟨version, member, -, eligible⟩, -⟩ := reachesBack
        exact absurd eligible (noneEligible version member)
  | some version =>
      obtain ⟨⟨member, eligible⟩, greatest⟩ := latestCheckpoint_eq_some.1 latest
      rw [Option.getD_some]
      constructor
      · intro earlier
        refine ⟨⟨version, member, earlier, eligible⟩, ?_⟩
        -- An eligible checkpoint from the time of the entity would be later than the latest.
        intro other otherMember since otherEligible
        have notLater := greatest other otherMember otherEligible
        exact absurd (lt_of_le_of_lt (le_trans since notLater) earlier) (lt_irrefl addedAt)
      · intro reachesBack
        by_contra notEarlier
        exact reachesBack.2 version member (not_lt.1 notEarlier) eligible

theorem describingVersion_lt_addedAt (reached : addedAt ≤ current) (period : Version × Version) :
    describingVersion checkpoints current addedAt period.1 period.2 < addedAt ↔
      ReachesBack checkpoints current addedAt period := by
  unfold ReachesBack
  by_cases isCurrent : period.1 = current
  · rw [describingVersion_of_eq isCurrent]
    simp [isCurrent, reached]
  · rw [describingVersion_of_ne isCurrent, latestCheckpoint_getD_lt]
    exact (and_iff_right isCurrent).symm

end Choice

namespace Catalog

variable {catalog : Catalog} {entity : Entity} {current addedAt : Version}
  {checkpoints : List Version} {shapes : List Shape}

/-- The shapes of an entity are drawn from snapshots of its own time exactly when none of its periods
reaches back. Without a history there is nothing to reach back for. -/
theorem drawn_since_addition_iff (added : entity.addedAt = some addedAt)
    (reached : addedAt ≤ current)
    (resolved : catalog.shapes entity current checkpoints = .ok shapes) :
    (∀ shape ∈ shapes,
        addedAt ≤ shape.drawnFrom ∧ catalog.snapshot shape.drawnFrom = .ok shape.snapshot) ↔
      (entity.mappings.isSome →
        ∀ period ∈ periods entity.labels current, ¬ReachesBack checkpoints current addedAt period) := by
  have held : ∀ shape ∈ shapes, catalog.snapshot shape.drawnFrom = .ok shape.snapshot :=
    fun shape member => (mem_shapes resolved member).2
  have restated : (∀ shape ∈ shapes,
        addedAt ≤ shape.drawnFrom ∧ catalog.snapshot shape.drawnFrom = .ok shape.snapshot) ↔
      ∀ version ∈ shapes.map (·.drawnFrom), addedAt ≤ version := by
    rw [List.forall_mem_map]
    exact forall₂_congr fun shape member => and_iff_left (held shape member)
  rw [restated]
  cases history : entity.mappings with
  | none =>
      obtain ⟨snapshot, version, -, -, ⟨-, rfl⟩ | ⟨mappings, isHistory, -⟩⟩ :=
        shapes_eq_ok.1 resolved
      · simp [reached]
      · simp [history] at isHistory
  | some mappings =>
      rw [shapes_of_history added history, bind_eq_ok] at resolved
      obtain ⟨-, -, drawn⟩ := resolved
      rw [drawnFrom_of_mapM_shape drawn, List.forall_mem_map]
      simp only [Option.isSome_some, forall_const]
      refine forall₂_congr fun period _ => ?_
      rw [← not_lt, describingVersion_lt_addedAt reached]

end Catalog

namespace Cinema

def award : Entity where
  name := "Award"
  isPersisted := true
  addedAt := some ⟨2, 0, 0⟩
  mappings := some [⟨3, 0, 0⟩]

def awardCatalog : Catalog where
  snapshots :=
    [(⟨1, 0, 0⟩, { entities := [{ genre with mappings := none }] }),
      (⟨2, 0, 0⟩, { entities := [{ award with mappings := none }] }),
      (⟨3, 0, 0⟩, { entities := [award] })]
  checkpoints := [⟨1, 0, 0⟩, ⟨2, 0, 0⟩]
  ascending := by unfold Ascending.Sorted; decide

/-- With the checkpoint that added it alone, both shapes of the award are drawn from its own time. With
the checkpoint before that, the period of its first shape reaches back. -/
theorem award_shapes :
    (∃ shapes, awardCatalog.shapes award ⟨3, 0, 0⟩ [⟨2, 0, 0⟩] = .ok shapes ∧
        (∀ period ∈ periods award.labels ⟨3, 0, 0⟩,
          ¬ReachesBack [⟨2, 0, 0⟩] ⟨3, 0, 0⟩ ⟨2, 0, 0⟩ period) ∧
        ∀ shape ∈ shapes, ⟨2, 0, 0⟩ ≤ shape.drawnFrom ∧
          awardCatalog.snapshot shape.drawnFrom = .ok shape.snapshot) ∧
      ∃ shapes, awardCatalog.shapes award ⟨3, 0, 0⟩ awardCatalog.checkpoints = .ok shapes ∧
        ReachesBack awardCatalog.checkpoints ⟨3, 0, 0⟩ ⟨2, 0, 0⟩ (⟨2, 0, 0⟩, ⟨3, 0, 0⟩) ∧
        ¬∀ shape ∈ shapes, ⟨2, 0, 0⟩ ≤ shape.drawnFrom ∧
          awardCatalog.snapshot shape.drawnFrom = .ok shape.snapshot := by
  have added : award.addedAt = some ⟨2, 0, 0⟩ := rfl
  have reached : (⟨2, 0, 0⟩ : Version) ≤ ⟨3, 0, 0⟩ := by decide
  have noneBack : ∀ period ∈ periods award.labels ⟨3, 0, 0⟩,
      ¬ReachesBack [⟨2, 0, 0⟩] ⟨3, 0, 0⟩ ⟨2, 0, 0⟩ period := by decide
  have back : ReachesBack awardCatalog.checkpoints ⟨3, 0, 0⟩ ⟨2, 0, 0⟩ (⟨2, 0, 0⟩, ⟨3, 0, 0⟩) := by
    decide
  obtain ⟨shapes, resolved⟩ :
      ∃ shapes, awardCatalog.shapes award ⟨3, 0, 0⟩ [⟨2, 0, 0⟩] = .ok shapes := ⟨_, rfl⟩
  obtain ⟨older, olderResolved⟩ :
      ∃ shapes, awardCatalog.shapes award ⟨3, 0, 0⟩ awardCatalog.checkpoints = .ok shapes :=
    ⟨_, rfl⟩
  refine ⟨⟨shapes, resolved, noneBack, ?_⟩, ⟨older, olderResolved, back, ?_⟩⟩
  · rw [Catalog.drawn_since_addition_iff added reached resolved]
    exact fun _ => noneBack
  · rw [Catalog.drawn_since_addition_iff added reached olderResolved]
    intro noneReachesBack
    exact noneReachesBack rfl _ List.mem_cons_self back

/-- The catalog is valid and the history of the award ascends. And yet its first shape is drawn from a
snapshot that is none of those since it was added, and so it cannot be drawn. -/
theorem award_drawn_from_before_it :
    awardCatalog.validate = .ok () ∧ award.addedAt = some ⟨2, 0, 0⟩ ∧
      award.labels.Pairwise (· < ·) ∧
      (∃ shapes, awardCatalog.shapes award ⟨3, 0, 0⟩ awardCatalog.checkpoints = .ok shapes ∧
        ∃ shape ∈ shapes, shape.label = ⟨2, 0, 0⟩ ∧ shape.drawnFrom = ⟨1, 0, 0⟩ ∧
          ∀ version, ⟨2, 0, 0⟩ ≤ version → awardCatalog.snapshot version ≠ .ok shape.snapshot) ∧
      awardCatalog.compile {} ⟨3, 0, 0⟩ =
        .error (.entity "Award" ⟨2, 0, 0⟩ (.lookup (.unknownEntity "Award"))) := by
  refine ⟨rfl, rfl, by decide, ⟨_, rfl, _, List.mem_cons_self, rfl, rfl, ?_⟩, rfl⟩
  intro version since found
  have listed := Catalog.mem_of_snapshot found
  simp only [awardCatalog, List.mem_cons, List.not_mem_nil, or_false, Prod.mk.injEq] at listed
  rcases listed with ⟨rfl, -⟩ | ⟨-, same⟩ | ⟨-, same⟩
  · exact absurd since (by decide)
  all_goals
    have sameNames := congrArg (fun snapshot : Snapshot => snapshot.entities.map (·.name)) same
    exact absurd sameNames (by decide)

end Cinema

end SchemaHistory
