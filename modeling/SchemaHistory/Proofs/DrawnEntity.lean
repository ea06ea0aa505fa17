import SchemaHistory.Proofs.SoundCompilation

/-!
The entity from which a block is drawn: the one that the snapshot of its shape has in place of the
entity of the current snapshot. The block has the names of that entity under its label, the bookkeeping
attributes, and the attributes of all properties that are used.
-/

namespace SchemaHistory

open Traversal

set_option autoImplicit false

structure Block.HasNamesOf (block : Block) (drawn : Entity) (label : Version) (mode : NamingMode) :
    Prop where
  storeName : block.storeName = drawn.storeName label
  className : block.className = drawn.className label
  attributes : ∃ identifier groups,
    List.Forall₂ (fun property group => ∃ storage, group = property.attributes storage mode)
      drawn.usedProperties groups ∧
    block.attributes = drawn.bookkeeping identifier mode ++ groups.flatten

namespace Shape

variable {shape : Shape} {formerName : Option String} {mode : NamingMode}

theorem propertyAttributes_eq_ok {entity : Entity} {property : Property} {group : List Attribute} :
    shape.propertyAttributes entity mode property = .ok group ↔
      ∃ storage, shape.snapshot.storage property.type = .ok storage ∧
        group = property.attributes storage mode := by
  unfold propertyAttributes
  cases shape.snapshot.storage property.type <;> simp [eq_comm]

theorem hasNamesOf_of_block {block : Block} (isDrawn : shape.block formerName mode = .ok block) :
    ∃ drawn, shape.entity formerName = .ok drawn ∧ block.HasNamesOf drawn shape.label mode := by
  obtain ⟨drawn, identifier, groups, found, -, typed, rfl⟩ := block_eq_ok.1 isDrawn
  refine ⟨drawn, found, rfl, rfl, identifier, groups, ?_, rfl⟩
  refine typed.imp ?_
  intro property group hasGroup
  obtain ⟨storage, -, isGroup⟩ := propertyAttributes_eq_ok.1 hasGroup
  exact ⟨storage, isGroup⟩

end Shape

theorem Entity.Sound.labels_ascend {entity : Entity} (sound : entity.Sound) :
    entity.labels.Pairwise (· < ·) := by
  cases added : entity.addedAt with
  | none => simp [labels, added]
  | some addedAt =>
      cases history : entity.mappings with
      | none => simp [labels, added, history]
      | some mappings =>
          rw [labels_of_history added history]
          exact sound.ascendingHistory addedAt mappings added history

namespace Catalog

variable {catalog : Catalog} {config : Config} {current : Version} {boundary : Entity × Version}

/-- The entity from which the block of a boundary is drawn, found under the present name or the former
one. -/
def DrawnFrom (catalog : Catalog) (config : Config) (current : Version)
    (boundary : Entity × Version) (drawn : Entity) : Prop :=
  ∃ shapes, catalog.shapes boundary.1 current (catalog.checkpointsFor config) = .ok shapes ∧
    ∃ shape ∈ shapes, shape.label = boundary.2 ∧
      shape.entity boundary.1.previousName = .ok drawn

theorem Shows.drawnFrom {block : Block} (shows : catalog.Shows config current boundary block) :
    ∃ drawn, catalog.DrawnFrom config current boundary drawn ∧
      block.HasNamesOf drawn boundary.2 config.naming := by
  obtain ⟨shapes, resolved, shape, member, sameLabel, isDrawn, -⟩ := shows
  obtain ⟨drawn, found, hasNames⟩ := Shape.hasNamesOf_of_block isDrawn
  rw [sameLabel] at hasNames
  exact ⟨drawn, ⟨shapes, resolved, shape, member, sameLabel, found⟩, hasNames⟩

/-- No label of a history is repeated, so a boundary has one shape. -/
theorem DrawnFrom.unique (ascending : boundary.1.labels.Pairwise (· < ·)) {drawn other : Entity}
    (first : catalog.DrawnFrom config current boundary drawn)
    (second : catalog.DrawnFrom config current boundary other) : drawn = other := by
  obtain ⟨shapes, resolved, shape, member, label, found⟩ := first
  obtain ⟨otherShapes, otherResolved, otherShape, otherMember, otherLabel, otherFound⟩ := second
  obtain rfl := Except.ok.inj (resolved.symm.trans otherResolved)
  have distinct : (shapes.map (·.label)).Nodup := by
    rw [shapes_labels resolved]
    exact ascending.imp ne_of_lt
  have sameShape : shape = otherShape :=
    List.inj_on_of_nodup_map distinct member otherMember (label.trans otherLabel.symm)
  rw [sameShape, otherFound] at found
  exact (Except.ok.inj found).symm

/-- What a block of a valid catalog is drawn from is sound, whichever snapshot it is in. -/
theorem DrawnFrom.sound {drawn : Entity}
    (isDrawn : catalog.DrawnFrom config current boundary drawn) (sound : catalog.Sound) :
    drawn.Sound := by
  obtain ⟨shapes, resolved, shape, member, -, found⟩ := isDrawn
  have soundSnapshot : shape.snapshot.Sound := sound.snapshot (mem_shapes resolved member).2
  exact soundSnapshot.soundEntities drawn (Shape.mem_of_entity found)

theorem sound_of_mem_boundaries {snapshot : Snapshot} (valid : catalog.validate = .ok ())
    (found : catalog.snapshot current = .ok snapshot) (member : boundary ∈ snapshot.boundaries) :
    boundary.1 ∈ snapshot.persisted ∧ boundary.1.Sound := by
  have sound := sound_of_valid valid
  obtain ⟨entity, persisted, isBoundary⟩ := List.mem_flatMap.1 member
  obtain ⟨label, -, rfl⟩ := List.mem_map.1 isBoundary
  have inSnapshot : entity ∈ snapshot.entities := List.mem_of_mem_filter persisted
  exact ⟨persisted, (sound.snapshot found).soundEntities entity inSnapshot⟩

end Catalog

end SchemaHistory
