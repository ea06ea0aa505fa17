import SchemaHistory.Proofs.Lookup
import SchemaHistory.Proofs.Traversal
import SchemaHistory.Proofs.VersionOrder
import SchemaHistory.Shape

/-!
The stored shapes of an entity stand for its boundaries: one shape for each, in the order of the
author, drawn from a snapshot that the catalog holds.
-/

namespace SchemaHistory

open Traversal

set_option autoImplicit false

/-- The versions under which the shapes of an entity are stored: the one that added it, then those
that its mappings lead to. -/
def Entity.labels (entity : Entity) : List Version :=
  match entity.addedAt with
  | none => []
  | some addedAt => addedAt :: entity.mappings.getD []

theorem Entity.labels_of_history {entity : Entity} {addedAt : Version} {mappings : List Version}
    (added : entity.addedAt = some addedAt) (history : entity.mappings = some mappings) :
    entity.labels = addedAt :: mappings := by
  simp [labels, added, history]

theorem Entity.history_of_labels {entity : Entity} {addedAt : Version} {rest : List Version}
    (hasLabels : entity.labels = addedAt :: rest) (more : rest ≠ []) :
    entity.addedAt = some addedAt ∧ entity.mappings = some rest := by
  unfold labels at hasLabels
  cases added : entity.addedAt with
  | none => simp [added] at hasLabels
  | some version =>
      simp only [added, List.cons.injEq] at hasLabels
      obtain ⟨rfl, sameRest⟩ := hasLabels
      cases history : entity.mappings with
      | none =>
          rw [history, Option.getD_none] at sameRest
          exact absurd sameRest.symm more
      | some mappings => simpa [history] using sameRest

/-- Each label with the boundary before which its shape ends: the next label, or after the last one
the version that is given. -/
def periods (labels : List Version) (final : Version) : List (Version × Version) :=
  labels.zip (labels.tail ++ [final])

theorem map_fst_periods (labels : List Version) (final : Version) :
    (periods labels final).map Prod.fst = labels := by
  unfold periods
  rw [List.map_fst_zip]
  rw [List.length_append, List.length_tail, List.length_singleton]
  omega

theorem mem_periods {labels : List Version} {final : Version} {period : Version × Version}
    (member : period ∈ periods labels final) :
    period.1 ∈ labels ∧ (period.2 ∈ labels.tail ∨ period.2 = final) := by
  obtain ⟨isLabel, isBoundary⟩ := List.of_mem_zip member
  rw [List.mem_append, List.mem_singleton] at isBoundary
  exact ⟨isLabel, isBoundary⟩

/-- What comes after a label has no influence on the periods before it. -/
theorem periods_append (before after : List Version) (label final : Version) :
    periods (before ++ label :: after) final =
      periods before label ++ periods (label :: after) final := by
  cases before with
  | nil => rfl
  | cons first rest =>
      have sameLength : (first :: rest).length = (rest ++ [label]).length := by simp
      have split : ((first :: rest) ++ (label :: after)).zip ((rest ++ [label]) ++ (after ++ [final])) =
          (first :: rest).zip (rest ++ [label]) ++ (label :: after).zip (after ++ [final]) :=
        List.zip_append sameLength
      simpa [periods] using split

theorem latestCheckpoint_mem {checkpoints : List Version} {label next version : Version}
    (latest : latestCheckpoint checkpoints label next = some version) :
    version ∈ checkpoints ∧ version < next ∧ version.sameRelease label = false := by
  have member := List.max?_mem latest
  simpa using member

/-- A boundary is described by the current version, by a checkpoint or by the version that added the
entity. -/
theorem describingVersion_cases (checkpoints : List Version) (current addedAt label next : Version) :
    describingVersion checkpoints current addedAt label next = current ∨
      describingVersion checkpoints current addedAt label next ∈ checkpoints ∨
      describingVersion checkpoints current addedAt label next = addedAt := by
  unfold describingVersion
  split
  · exact Or.inl ‹label = current›
  · cases latest : latestCheckpoint checkpoints label next with
    | none => exact Or.inr (Or.inr rfl)
    | some version => exact Or.inr (Or.inl (latestCheckpoint_mem latest).1)

namespace Catalog

variable {catalog : Catalog} {entity : Entity} {current : Version} {checkpoints : List Version}

theorem snapshotAt_eq_ok {version : Version} {snapshot : Snapshot} :
    catalog.snapshotAt version = .ok snapshot ↔ catalog.snapshot version = .ok snapshot := by
  unfold snapshotAt
  split <;> simp_all

theorem snapshotAt_eq_error {version : Version} {error : CompileError} :
    catalog.snapshotAt version = .error error ↔
      catalog.snapshot version = .error (.missingSnapshot version) ∧
        error = .missingSnapshot version := by
  unfold snapshotAt
  split
  · simp_all
  · rename_i missing fails
    cases (snapshot_eq_error.1 fails).1
    simp [fails, eq_comm]

theorem shape_eq_ok {addedAt : Version} {boundary : Version × Version} {shape : Shape} :
    catalog.shape entity current addedAt checkpoints boundary = .ok shape ↔
      ∃ snapshot,
        catalog.snapshot (describingVersion checkpoints current addedAt boundary.1 boundary.2) =
          .ok snapshot ∧
        shape =
          { entityName := entity.name
            label := boundary.1
            drawnFrom := describingVersion checkpoints current addedAt boundary.1 boundary.2
            snapshot } := by
  unfold Catalog.shape
  simp only [bind_eq_ok, snapshotAt_eq_ok, Except.ok.injEq]
  exact exists_congr fun snapshot => and_congr_right' eq_comm

theorem shape_eq_error {addedAt : Version} {boundary : Version × Version} {error : CompileError} :
    catalog.shape entity current addedAt checkpoints boundary = .error error ↔
      catalog.snapshot (describingVersion checkpoints current addedAt boundary.1 boundary.2) =
          .error (.missingSnapshot
            (describingVersion checkpoints current addedAt boundary.1 boundary.2)) ∧
        error = .missingSnapshot
          (describingVersion checkpoints current addedAt boundary.1 boundary.2) := by
  simp [Catalog.shape, bind_eq_error, snapshotAt_eq_error]

theorem shapes_eq_ok {shapes : List Shape} :
    catalog.shapes entity current checkpoints = .ok shapes ↔
      ∃ snapshot addedAt, catalog.snapshot current = .ok snapshot ∧
        entity.addedAt = some addedAt ∧
        (entity.mappings = none ∧
            shapes =
              [{ entityName := entity.name, label := addedAt, drawnFrom := current, snapshot
                 previousName := entity.previousName }] ∨
          ∃ mappings, entity.mappings = some mappings ∧
            List.Forall₂
              (fun boundary shape =>
                catalog.shape entity current addedAt checkpoints boundary = .ok shape)
              ((addedAt :: mappings).zip (mappings ++ [current])) shapes) := by
  simp only [Catalog.shapes, bind_eq_ok, snapshotAt_eq_ok]
  cases added : entity.addedAt with
  | none => simp
  | some addedAt =>
      cases history : entity.mappings with
      | none => simp [eq_comm]
      | some mappings => simp [mapM_eq_ok]

/-- The current snapshot is looked up first, then the version that added the entity, and then the
snapshot of each boundary. -/
theorem shapes_eq_error {error : CompileError} :
    catalog.shapes entity current checkpoints = .error error ↔
      catalog.snapshotAt current = .error error ∨
        ∃ snapshot, catalog.snapshot current = .ok snapshot ∧
          (entity.addedAt = none ∧ error = .missingAddedAt entity.name ∨
            ∃ addedAt mappings, entity.addedAt = some addedAt ∧ entity.mappings = some mappings ∧
              FirstFailure (catalog.shape entity current addedAt checkpoints)
                ((addedAt :: mappings).zip (mappings ++ [current])) error) := by
  simp only [Catalog.shapes, bind_eq_error, snapshotAt_eq_ok]
  cases added : entity.addedAt with
  | none => simp [eq_comm]
  | some addedAt =>
      cases history : entity.mappings with
      | none => simp
      | some mappings => simp [mapM_eq_error]

theorem labels_of_mapM_shape {addedAt : Version} {periods : List (Version × Version)}
    {shapes : List Shape}
    (drawn : periods.mapM (catalog.shape entity current addedAt checkpoints) = .ok shapes) :
    shapes.map (·.label) = periods.map Prod.fst := by
  apply map_eq_of_results _ (mapM_eq_ok.1 drawn)
  intro period shape isDrawn
  obtain ⟨-, -, rfl⟩ := shape_eq_ok.1 isDrawn
  rfl

theorem drawnFrom_of_mapM_shape {addedAt : Version} {periods : List (Version × Version)}
    {shapes : List Shape}
    (drawn : periods.mapM (catalog.shape entity current addedAt checkpoints) = .ok shapes) :
    shapes.map (·.drawnFrom) =
      periods.map fun period =>
        describingVersion checkpoints current addedAt period.1 period.2 := by
  apply map_eq_of_results _ (mapM_eq_ok.1 drawn)
  intro period shape isDrawn
  obtain ⟨-, -, rfl⟩ := shape_eq_ok.1 isDrawn
  rfl

theorem shapes_of_history {addedAt : Version} {mappings : List Version}
    (added : entity.addedAt = some addedAt) (history : entity.mappings = some mappings) :
    catalog.shapes entity current checkpoints =
      catalog.snapshotAt current >>= fun _ =>
        (periods entity.labels current).mapM
          (catalog.shape entity current addedAt checkpoints) := by
  rw [Entity.labels_of_history added history]
  simp only [Catalog.shapes, added, history]
  rfl

theorem shapes_eq_of_periods {second : Catalog} {others : List Version}
    (sameCurrent : catalog.snapshotAt current = second.snapshotAt current)
    (samePeriods : ∀ addedAt mappings, entity.addedAt = some addedAt →
      entity.mappings = some mappings → ∀ period ∈ periods (addedAt :: mappings) current,
        catalog.shape entity current addedAt checkpoints period =
          second.shape entity current addedAt others period) :
    catalog.shapes entity current checkpoints = second.shapes entity current others := by
  cases added : entity.addedAt with
  | none => simp only [shapes, added, sameCurrent]
  | some addedAt =>
      cases history : entity.mappings with
      | none => simp only [shapes, added, history, sameCurrent]
      | some mappings =>
          rw [shapes_of_history added history, shapes_of_history added history, sameCurrent]
          apply bind_eq_of_ok
          intro snapshot _
          apply mapM_congr
          rw [Entity.labels_of_history added history]
          exact samePeriods addedAt mappings added history

section RelatedSnapshots

variable {first second : Catalog} {related : Snapshot → Snapshot → Prop} {paired : Shape → Shape → Prop}

theorem shape_agrees {addedAt : Version} {period : Version × Version}
    (agree : ∀ version, Agree related (first.snapshotAt version) (second.snapshotAt version))
    (pairs : ∀ (shape : Shape) (snapshot : Snapshot), related shape.snapshot snapshot →
      paired shape { shape with snapshot }) :
    Agree paired (first.shape entity current addedAt checkpoints period)
      (second.shape entity current addedAt checkpoints period) := by
  unfold Catalog.shape
  refine (agree _).bind ?_
  intro snapshot other _ _ isRelated
  exact .ok (pairs _ other isRelated)

theorem shapes_agree
    (agree : ∀ version, Agree related (first.snapshotAt version) (second.snapshotAt version))
    (pairs : ∀ (shape : Shape) (snapshot : Snapshot), related shape.snapshot snapshot →
      paired shape { shape with snapshot }) :
    Agree (List.Forall₂ paired) (first.shapes entity current checkpoints)
      (second.shapes entity current checkpoints) := by
  unfold Catalog.shapes
  refine (agree current).bind ?_
  intro snapshot other _ _ isRelated
  cases entity.addedAt with
  | none => exact .error _
  | some addedAt =>
      cases entity.mappings with
      | none => exact .ok (.cons (pairs _ other isRelated) .nil)
      | some mappings =>
          apply Agree.mapM_of_items
          intro period _
          exact shape_agrees agree pairs

end RelatedSnapshots

theorem shapes_labels {shapes : List Shape}
    (resolved : catalog.shapes entity current checkpoints = .ok shapes) :
    shapes.map (·.label) = entity.labels := by
  obtain ⟨snapshot, addedAt, -, added, ⟨noHistory, rfl⟩ | ⟨mappings, history, -⟩⟩ :=
    shapes_eq_ok.1 resolved
  · simp [Entity.labels, added, noHistory]
  · rw [shapes_of_history added history, bind_eq_ok] at resolved
    obtain ⟨-, -, drawn⟩ := resolved
    rw [labels_of_mapM_shape drawn, map_fst_periods]

theorem mem_shapes {shapes : List Shape} {shape : Shape}
    (resolved : catalog.shapes entity current checkpoints = .ok shapes) (member : shape ∈ shapes) :
    shape.entityName = entity.name ∧ catalog.snapshot shape.drawnFrom = .ok shape.snapshot := by
  obtain ⟨snapshot, addedAt, found, -, ⟨-, rfl⟩ | ⟨mappings, -, drawn⟩⟩ :=
    shapes_eq_ok.1 resolved
  · obtain rfl := List.mem_singleton.1 member
    exact ⟨rfl, found⟩
  · obtain ⟨boundary, -, isDrawn⟩ := exists_item_of_result drawn member
    obtain ⟨describing, found, rfl⟩ := shape_eq_ok.1 isDrawn
    exact ⟨rfl, found⟩

end Catalog

end SchemaHistory
