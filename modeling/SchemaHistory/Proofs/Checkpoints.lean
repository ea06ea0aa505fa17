import SchemaHistory.Proofs.CheckpointSet
import SchemaHistory.Proofs.VersionText

/-!
Checkpoints of the configuration in place of those of the catalog. Shapes are resolved with the
configured ones, but validation reads the list of the catalog. So a run is the one of the catalog with
the list replaced exactly when nothing is validated, or when validation has the same to say of both lists:
the versions that they name without a snapshot.
-/

namespace SchemaHistory

open Traversal

set_option autoImplicit false

namespace Findings

variable {findings : Findings} {messages others : List String}

theorem addAll_inj : findings.addAll messages = findings.addAll others ↔ messages = others := by
  rw [Findings.ext_iff]
  simp [addAll, Tree.addAll]

theorem result_addAll_inj :
    (findings.addAll messages).result = (findings.addAll others).result ↔ messages = others := by
  constructor
  · intro same
    unfold result at same
    rw [isEmpty_addAll, isEmpty_addAll] at same
    cases hasNone : findings.isEmpty && messages.isEmpty <;>
      cases hasNoneToo : findings.isEmpty && others.isEmpty <;>
      simp only [hasNone, hasNoneToo, if_true, if_false, Bool.false_eq_true, reduceCtorEq] at same
    · exact addAll_inj.1 (Except.error.inj same)
    · rw [Bool.and_eq_true, List.isEmpty_iff] at hasNone hasNoneToo
      rw [hasNone.2, hasNoneToo.2]
  · intro same
    rw [same]

end Findings

theorem Problem.checkpoint_message_inj {left right : Version} :
    (checkpointWithoutSnapshot left).message = (checkpointWithoutSnapshot right).message ↔
      left = right := by
  unfold message
  rw [String.append_left_inj, String.append_right_inj, Version.dotted_inj]

namespace Catalog

variable {catalog : Catalog} {config : Config} {current : Version} {checkpoints : List Version}
  {error : CompileError}

/-- The versions of a list that have no snapshot, in the order and as often as the list names them. -/
def unknownAmong (catalog : Catalog) (versions : List Version) : List Version :=
  versions.filter (!catalog.contains ·)

theorem validate_withCheckpoints_iff :
    catalog.validate = (catalog.withCheckpoints checkpoints).validate ↔
      catalog.unknownAmong catalog.checkpoints = catalog.unknownAmong checkpoints := by
  have ownMessages : catalog.problems.map Problem.message =
      (catalog.unknownAmong catalog.checkpoints).map
        fun version => (Problem.checkpointWithoutSnapshot version).message := by
    simp [problems, unknownAmong, Function.comp_def]
  have givenMessages : (catalog.withCheckpoints checkpoints).problems.map Problem.message =
      (catalog.unknownAmong checkpoints).map
        fun version => (Problem.checkpointWithoutSnapshot version).message := by
    simp [problems, unknownAmong, Function.comp_def, withCheckpoints, contains]
  unfold validate findings
  rw [ownMessages, givenMessages]
  have sameSnapshots : (catalog.withCheckpoints checkpoints).snapshots = catalog.snapshots := rfl
  rw [sameSnapshots, Findings.result_addAll_inj]
  exact List.map_inj_right fun left right => Problem.checkpoint_message_inj.1

theorem check_eq_error :
    catalog.check config = .error error ↔
      config.validates = true ∧
        ∃ findings, catalog.validate = .error findings ∧ error = .invalid findings := by
  unfold check
  cases config.validates <;> cases catalog.validate <;> simp [Except.mapError, eq_comm]

theorem missing_of_shapes_error {entity : Entity}
    (fails : catalog.shapes entity current checkpoints = .error error) :
    (∃ version, error = .missingSnapshot version) ∨ ∃ name, error = .missingAddedAt name := by
  rcases shapes_eq_error.1 fails with
    missing | ⟨-, -, ⟨-, rfl⟩ | ⟨addedAt, mappings, -, -, failure⟩⟩
  · exact Or.inl ⟨current, (snapshotAt_eq_error.1 missing).2⟩
  · exact Or.inr ⟨_, rfl⟩
  · obtain ⟨boundary, -, shapeFails⟩ := item_of_first_failure failure
    exact Or.inl ⟨_, (shape_eq_error.1 shapeFails).2⟩

theorem compile_ne_invalid (passes : catalog.check config = .ok ()) (findings : Findings) :
    catalog.compile config current ≠ .error (.invalid findings) := by
  intro fails
  rcases compile_eq_error.1 fails with unsound | ⟨-, missing | ⟨snapshot, -, failure⟩⟩
  · rw [passes] at unsound
    cases unsound
  · cases (snapshotAt_eq_error.1 missing).2
  · obtain ⟨entity, -, notDrawn⟩ := item_of_first_failure failure
    rcases entityBlocks_eq_error.1 notDrawn with unresolved | ⟨shapes, -, blockFailure⟩
    · rcases missing_of_shapes_error unresolved with ⟨version, isMissing⟩ | ⟨name, isMissing⟩
      · cases isMissing
      · cases isMissing
    · obtain ⟨shape, -, blockFails⟩ := item_of_first_failure blockFailure
      obtain ⟨source, isSource, -⟩ := Shape.source_of_block_error blockFails
      cases isSource

theorem compile_of_check_error (fails : catalog.check config = .error error) :
    catalog.compile config current = .error error :=
  compile_eq_error.2 (Or.inl fails)

theorem compile_of_same_check (configured : config.checkpoints ≠ [])
    (sameCheck : catalog.check config =
      (catalog.withCheckpoints config.checkpoints).check { config with checkpoints := [] }) :
    catalog.compile config current =
      (catalog.withCheckpoints config.checkpoints).compile { config with checkpoints := [] }
        current := by
  have configuredCount : catalog.checkpointsFor config = config.checkpoints := by
    unfold checkpointsFor
    rw [if_neg configured]
  have ownCount : (catalog.withCheckpoints config.checkpoints).checkpointsFor
      { config with checkpoints := [] } = config.checkpoints := by
    simp [checkpointsFor, withCheckpoints]
  refine compile_eq_of_members rfl rfl rfl sameCheck ?_
  intro version
  rw [configuredCount, ownCount]

theorem same_check_of_compile {other : Catalog} {otherConfig : Config}
    (sameRun : catalog.compile config current = other.compile otherConfig current) :
    catalog.check config = other.check otherConfig := by
  cases passes : catalog.check config with
  | ok =>
      cases passesToo : other.check otherConfig with
      | ok => rfl
      | error error =>
          obtain ⟨-, findings, -, rfl⟩ := check_eq_error.1 passesToo
          rw [compile_of_check_error passesToo] at sameRun
          exact absurd sameRun (compile_ne_invalid passes findings)
  | error error =>
      rw [compile_of_check_error passes] at sameRun
      cases passesToo : other.check otherConfig with
      | ok =>
          obtain ⟨-, findings, -, rfl⟩ := check_eq_error.1 passes
          exact absurd sameRun.symm (compile_ne_invalid passesToo findings)
      | error otherError =>
          rw [compile_of_check_error passesToo] at sameRun
          rw [Except.error.inj sameRun]

theorem same_check_iff :
    catalog.check config =
        (catalog.withCheckpoints checkpoints).check { config with checkpoints := [] } ↔
      config.validates = false ∨
        catalog.unknownAmong catalog.checkpoints = catalog.unknownAmong checkpoints := by
  rw [← validate_withCheckpoints_iff]
  unfold check
  cases config.validates with
  | false => simp
  | true =>
      cases catalog.validate <;> cases (catalog.withCheckpoints checkpoints).validate <;>
        simp [Except.mapError]

/-- Configured checkpoints give what the catalog gives with them as its own list, be it an artifact or a
failure, exactly when nothing is validated or both lists name the same versions without a snapshot. -/
theorem compile_configured_iff (configured : config.checkpoints ≠ []) :
    catalog.compile config current =
        (catalog.withCheckpoints config.checkpoints).compile { config with checkpoints := [] }
          current ↔
      config.validates = false ∨
        catalog.unknownAmong catalog.checkpoints = catalog.unknownAmong config.checkpoints := by
  rw [← same_check_iff]
  constructor
  · intro sameRun
    exact same_check_of_compile sameRun
  · intro sameCheck
    exact compile_of_same_check configured sameCheck

end Catalog

namespace Cinema

def halfwayConfig : Config where
  checkpoints := [⟨1, 5, 0⟩]

/-- Nothing is validated, or the version is also on the list of the catalog: either way the configured
list can as well be that of the catalog. -/
theorem halfway_agrees :
    halfwayConfig.checkpoints ≠ [] ∧
      catalog.compile { halfwayConfig with validates := false } ⟨2, 0, 0⟩ =
        (catalog.withCheckpoints [⟨1, 5, 0⟩]).compile { validates := false } ⟨2, 0, 0⟩ ∧
      (catalog.withCheckpoints [⟨1, 0, 0⟩, ⟨1, 5, 0⟩]).compile halfwayConfig ⟨2, 0, 0⟩ =
        (catalog.withCheckpoints [⟨1, 5, 0⟩]).compile {} ⟨2, 0, 0⟩ := by
  have configured : halfwayConfig.checkpoints ≠ [] := by decide
  have configuredToo : { halfwayConfig with validates := false }.checkpoints ≠ [] := by decide
  refine ⟨configured, ?_, ?_⟩
  · exact (Catalog.compile_configured_iff configuredToo).2 (Or.inl rfl)
  · exact (Catalog.compile_configured_iff configured).2 (Or.inr (by decide))

/-- The version has no snapshot. The valid catalog with this configuration fails when it looks for it;
with the list as its own, validation finds it missing. -/
theorem halfway_not_validated :
    catalog.validate = .ok () ∧ halfwayConfig.checkpoints ≠ [] ∧
      catalog.compile halfwayConfig ⟨2, 0, 0⟩ = .error (.missingSnapshot ⟨1, 5, 0⟩) ∧
      (∃ findings, (catalog.withCheckpoints halfwayConfig.checkpoints).compile
            { halfwayConfig with checkpoints := [] } ⟨2, 0, 0⟩ = .error (.invalid findings) ∧
          findings.lines = ["history version 1.5.0 has no descriptions"]) ∧
      catalog.compile halfwayConfig ⟨2, 0, 0⟩ ≠
        (catalog.withCheckpoints halfwayConfig.checkpoints).compile
          { halfwayConfig with checkpoints := [] } ⟨2, 0, 0⟩ := by
  have missing : catalog.compile halfwayConfig ⟨2, 0, 0⟩ = .error (.missingSnapshot ⟨1, 5, 0⟩) := rfl
  have invalid : (catalog.withCheckpoints halfwayConfig.checkpoints).compile
      { halfwayConfig with checkpoints := [] } ⟨2, 0, 0⟩ =
        .error (.invalid (.leaf ["history version 1.5.0 has no descriptions"])) := rfl
  refine ⟨rfl, by decide, missing, ⟨_, invalid, rfl⟩, ?_⟩
  rw [missing, invalid]
  simp

end Cinema

end SchemaHistory
