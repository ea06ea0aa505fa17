import SchemaHistory.Proofs.DrawnEntity
import SchemaHistory.Proofs.Renaming
import SchemaHistory.Proofs.VersionText

/-!
When the blocks of a document are stored under different names. A store name is made of a spelling and a
label, and both can be read from it. So the blocks of one entity never share a name. Those of two entities
share one when they have the same label and are drawn from entities whose names are spelled alike, which
the rules for names do not rule out: they compare names as the author writes them, in one snapshot.
-/

namespace SchemaHistory

open Traversal

set_option autoImplicit false

theorem Entity.storeName_eq_iff {first second : Entity} {left right : Version} :
    first.storeName left = second.storeName right ↔
      Text.pascalCase first.name.toList = Text.pascalCase second.name.toList ∧ left = right := by
  have spelled : ∀ (entity : Entity) (version : Version), (entity.storeName version).toList =
      Text.pascalCase entity.name.toList ++ '_' :: version.charsWith '_' := by
    intro entity version
    simp [storeName, Version.toList_underscored]
  rw [← String.toList_inj, spelled, spelled]
  exact Version.stem_and_version (by decide)

/-- The block is one of the shape, under whichever former name its entity was looked up. -/
def Shape.DrawnAs (shape : Shape) (block : Block) : Prop :=
  ∃ formerName mode, shape.block formerName mode = .ok block

theorem Shape.DrawnAs.label_of_storeName_eq {shape other : Shape} {block otherBlock : Block}
    (drawn : shape.DrawnAs block) (otherDrawn : other.DrawnAs otherBlock)
    (sameName : block.storeName = otherBlock.storeName) : shape.label = other.label := by
  obtain ⟨formerName, mode, isDrawn⟩ := drawn
  obtain ⟨otherFormerName, otherMode, isOtherDrawn⟩ := otherDrawn
  obtain ⟨entity, -, hasNames⟩ := Shape.hasNamesOf_of_block isDrawn
  obtain ⟨otherEntity, -, otherHasNames⟩ := Shape.hasNamesOf_of_block isOtherDrawn
  rw [hasNames.storeName, otherHasNames.storeName] at sameName
  exact (Entity.storeName_eq_iff.1 sameName).2

theorem Catalog.storeNames_of_shapes {catalog : Catalog} {entity : Entity} {current : Version}
    {checkpoints : List Version} {shapes : List Shape} (ascending : entity.labels.Pairwise (· < ·))
    (resolved : catalog.shapes entity current checkpoints = .ok shapes) :
    shapes.Pairwise fun earlier later => ∀ block other, earlier.DrawnAs block →
      later.DrawnAs other → block.storeName ≠ other.storeName := by
  have labelsAscend : shapes.Pairwise fun earlier later => earlier.label < later.label := by
    rw [← shapes_labels resolved, List.pairwise_map] at ascending
    exact ascending
  refine labelsAscend.imp ?_
  intro earlier later before block other drawn otherDrawn sameName
  exact ne_of_lt before (drawn.label_of_storeName_eq otherDrawn sameName)

theorem Catalog.storeNames_of_drawn {catalog : Catalog} {entity : Entity} {current : Version}
    {checkpoints : List Version} {shapes : List Shape} {blocks : List Block}
    (ascending : entity.labels.Pairwise (· < ·))
    (resolved : catalog.shapes entity current checkpoints = .ok shapes)
    (drawn : List.Forall₂ Shape.DrawnAs shapes blocks) : (blocks.map (·.storeName)).Nodup := by
  refine List.pairwise_map.2 (pairwise_of_items ?_ drawn (storeNames_of_shapes ascending resolved))
  intro earlier later block other isDrawn isOtherDrawn differ
  exact differ block other isDrawn isOtherDrawn

theorem Snapshot.Sound.boundaries_pairwise {snapshot : Snapshot} (sound : snapshot.Sound) :
    snapshot.boundaries.Pairwise fun first second =>
      first.1.name ≠ second.1.name ∨ first.2 < second.2 := by
  have distinct : snapshot.persisted.Pairwise fun first second => first.name ≠ second.name := by
    have all := List.pairwise_map.1 sound.distinctEntities
    exact all.sublist List.filter_sublist
  refine List.pairwise_flatMap.2 ⟨?_, ?_⟩
  · intro entity persisted
    have soundEntity := sound.soundEntities entity (List.mem_of_mem_filter persisted)
    rw [List.pairwise_map]
    exact soundEntity.labels_ascend.imp Or.inr
  · refine distinct.imp ?_
    intro first second different boundary isFirst other isSecond
    obtain ⟨label, -, rfl⟩ := List.mem_map.1 isFirst
    obtain ⟨otherLabel, -, rfl⟩ := List.mem_map.1 isSecond
    exact Or.inl different

namespace Catalog

variable {catalog : Catalog} {config : Config} {current : Version} {first second : Entity × Version}
  {block other : Block}

/-- Two entities have blocks under one label that are drawn from entities with names spelled alike. -/
def Clash (catalog : Catalog) (config : Config) (current : Version)
    (first second : Entity × Version) : Prop :=
  first.1.name ≠ second.1.name ∧ first.2 = second.2 ∧
    ∃ drawn other, catalog.DrawnFrom config current first drawn ∧
      catalog.DrawnFrom config current second other ∧
      Text.pascalCase drawn.name.toList = Text.pascalCase other.name.toList

theorem Clash.symm (clash : catalog.Clash config current first second) :
    catalog.Clash config current second first := by
  obtain ⟨different, sameLabel, drawn, other, isDrawn, isOther, alike⟩ := clash
  exact ⟨different.symm, sameLabel.symm, other, drawn, isOther, isDrawn, alike.symm⟩

theorem label_of_storeName_eq (shows : catalog.Shows config current first block)
    (showsOther : catalog.Shows config current second other)
    (sameName : block.storeName = other.storeName) : first.2 = second.2 := by
  obtain ⟨-, -, shape, -, label, isDrawn, -⟩ := shows
  obtain ⟨-, -, otherShape, -, otherLabel, isOtherDrawn, -⟩ := showsOther
  have drawn : shape.DrawnAs block := ⟨_, _, isDrawn⟩
  rw [← label, ← otherLabel]
  exact drawn.label_of_storeName_eq ⟨_, _, isOtherDrawn⟩ sameName

theorem clash_of_storeName_eq (different : first.1.name ≠ second.1.name)
    (shows : catalog.Shows config current first block)
    (showsOther : catalog.Shows config current second other)
    (sameName : block.storeName = other.storeName) :
    catalog.Clash config current first second := by
  obtain ⟨drawn, isDrawn, hasNames⟩ := shows.drawnFrom
  obtain ⟨otherDrawn, isOther, otherHasNames⟩ := showsOther.drawnFrom
  rw [hasNames.storeName, otherHasNames.storeName] at sameName
  obtain ⟨alike, sameLabel⟩ := Entity.storeName_eq_iff.1 sameName
  exact ⟨different, sameLabel, drawn, otherDrawn, isDrawn, isOther, alike⟩

theorem storeName_eq_of_clash (ascending : first.1.labels.Pairwise (· < ·))
    (otherAscending : second.1.labels.Pairwise (· < ·))
    (shows : catalog.Shows config current first block)
    (showsOther : catalog.Shows config current second other)
    (clash : catalog.Clash config current first second) : block.storeName = other.storeName := by
  obtain ⟨-, sameLabel, drawn, otherDrawn, isDrawn, isOther, alike⟩ := clash
  obtain ⟨shown, isShown, hasNames⟩ := shows.drawnFrom
  obtain ⟨otherShown, isOtherShown, otherHasNames⟩ := showsOther.drawnFrom
  obtain rfl := isDrawn.unique ascending isShown
  obtain rfl := isOther.unique otherAscending isOtherShown
  rw [hasNames.storeName, otherHasNames.storeName]
  exact Entity.storeName_eq_iff.2 ⟨alike, sameLabel⟩

theorem Draws.storeNames_nodup {entity : Entity} {blocks : List Block}
    (drawn : catalog.Draws config current entity blocks)
    (ascending : entity.labels.Pairwise (· < ·)) : (blocks.map (·.storeName)).Nodup := by
  obtain ⟨shapes, resolved, blocksDrawn⟩ := drawn
  exact storeNames_of_drawn ascending resolved
    (blocksDrawn.imp fun _ _ isDrawn => ⟨entity.previousName, config.naming, isDrawn⟩)

theorem storeNames_nodup_of_shown {boundaries : List (Entity × Version)} {blocks : List Block}
    (shown : List.Forall₂ (catalog.Shows config current) boundaries blocks)
    (ordered : boundaries.Pairwise fun first second =>
      first.1.name ≠ second.1.name ∨ first.2 < second.2)
    (ascending : ∀ boundary ∈ boundaries, boundary.1.labels.Pairwise (· < ·)) :
    (blocks.map (·.storeName)).Nodup ↔
      ∀ first ∈ boundaries, ∀ second ∈ boundaries, ¬catalog.Clash config current first second := by
  constructor
  · intro distinct
    have shownWithin : List.Forall₂
        (fun block boundary =>
          boundary.1.labels.Pairwise (· < ·) ∧ catalog.Shows config current boundary block)
        blocks boundaries :=
      ((List.forall₂_and_left _ _).2 ⟨ascending, shown⟩).flip
    have apart : boundaries.Pairwise fun first second => ¬catalog.Clash config current first second := by
      refine pairwise_of_items ?_ shownWithin (List.pairwise_map.1 distinct)
      intro block other first second ⟨firstAscends, shows⟩ ⟨secondAscends, showsOther⟩ differ clash
      exact differ (storeName_eq_of_clash firstAscends secondAscends shows showsOther clash)
    have symmetric :
        Std.Symm fun first second => ¬catalog.Clash config current first second :=
      ⟨fun first second noClash clash => noClash clash.symm⟩
    exact apart.forall_of_forall fun boundary _ clash => clash.1 rfl
  · intro noClash
    have orderedWithin : boundaries.Pairwise fun first second =>
        (first.1.name ≠ second.1.name ∨ first.2 < second.2) ∧
          ¬catalog.Clash config current first second := by
      refine ordered.imp_of_mem ?_
      intro first second firstMember secondMember before
      exact ⟨before, noClash first firstMember second secondMember⟩
    refine List.pairwise_map.2 (pairwise_of_items ?_ shown orderedWithin)
    intro first second block other shows showsOther ⟨before, apart⟩ sameName
    rcases before with different | earlier
    · exact apart (clash_of_storeName_eq different shows showsOther sameName)
    · exact ne_of_lt earlier (label_of_storeName_eq shows showsOther sameName)

/-- A store name says the label and how the name of the entity is spelled, whatever characters that name
has. So no two shapes of an entity with an ascending history are ever stored under one name, from whichever
entities they are drawn. -/
theorem storeNames_separate :
    (∀ (first second : Entity) (left right : Version),
        first.storeName left = second.storeName right ↔
          Text.pascalCase first.name.toList = Text.pascalCase second.name.toList ∧ left = right) ∧
      ∀ (catalog : Catalog) (entity : Entity) (current : Version) (checkpoints : List Version)
        (shapes : List Shape), entity.labels.Pairwise (· < ·) →
        catalog.shapes entity current checkpoints = .ok shapes →
        (shapes.Pairwise fun earlier later => ∀ block other, earlier.DrawnAs block →
            later.DrawnAs other → block.storeName ≠ other.storeName) ∧
          ∀ blocks, List.Forall₂ Shape.DrawnAs shapes blocks → (blocks.map (·.storeName)).Nodup := by
  refine ⟨fun _ _ _ _ => Entity.storeName_eq_iff, ?_⟩
  intro catalog entity current checkpoints shapes ascending resolved
  exact ⟨storeNames_of_shapes ascending resolved, fun _ => storeNames_of_drawn ascending resolved⟩

/-- In the document of a valid catalog the blocks of each entity are stored under different names, and all
blocks are exactly when no two entities have blocks of the same label that are drawn from entities with
names spelled alike. -/
theorem storeNames_distinct_iff (valid : catalog.validate = .ok ()) {artifact : Artifact}
    (compiled : catalog.compile config current = .ok artifact) :
    ∃ snapshot groups, catalog.snapshot current = .ok snapshot ∧
      artifact.content = Document.render { version := current, blocks := groups.flatten } ∧
      List.Forall₂ (catalog.Draws config current) snapshot.persisted groups ∧
      (∀ blocks ∈ groups, (blocks.map (·.storeName)).Nodup) ∧
      ((groups.flatten.map (·.storeName)).Nodup ↔
        ∀ first ∈ snapshot.boundaries, ∀ second ∈ snapshot.boundaries,
          ¬catalog.Clash config current first second) := by
  obtain ⟨-, snapshot, groups, found, drawn, rfl⟩ := compile_eq_ok.1 compiled
  have sound := sound_of_valid valid
  have soundSnapshot := sound.snapshot found
  refine ⟨snapshot, groups, found, rfl, drawn, ?_, ?_⟩
  · intro blocks member
    obtain ⟨entity, persisted, draws⟩ := exists_item_of_result drawn member
    have soundEntity := soundSnapshot.soundEntities entity (List.mem_of_mem_filter persisted)
    exact draws.storeNames_nodup soundEntity.labels_ascend
  · apply storeNames_nodup_of_shown (shows_of_draws drawn) soundSnapshot.boundaries_pairwise
    intro boundary member
    exact (sound_of_mem_boundaries valid found member).2.labels_ascend

end Catalog

namespace Cinema

/-- Categories that were split into genres and kinds, and genres whose names differ in case only. -/
def splitCatalog : Catalog where
  snapshots := [(⟨1, 0, 0⟩, { entities := [category] }), (⟨2, 0, 0⟩, { entities := [genre, kind] })]
  checkpoints := [⟨1, 0, 0⟩]
  ascending := by unfold Ascending.Sorted; decide

theorem genre_and_kind_clash :
    splitCatalog.validate = .ok () ∧
      splitCatalog.Clash {} ⟨2, 0, 0⟩ (genre, ⟨1, 0, 0⟩) (kind, ⟨1, 0, 0⟩) ∧
      ∃ artifact, splitCatalog.compile {} ⟨2, 0, 0⟩ = .ok artifact ∧
        ∃ (snapshot : Snapshot) (groups : List (List Block)),
          splitCatalog.snapshot ⟨2, 0, 0⟩ = .ok snapshot ∧
          artifact.content = Document.render { version := ⟨2, 0, 0⟩, blocks := groups.flatten } ∧
          (∀ blocks ∈ groups, (blocks.map (·.storeName)).Nodup) ∧
          ¬(groups.flatten.map (·.storeName)).Nodup := by
  have valid : splitCatalog.validate = .ok () := rfl
  have clash : splitCatalog.Clash {} ⟨2, 0, 0⟩ (genre, ⟨1, 0, 0⟩) (kind, ⟨1, 0, 0⟩) := by
    refine ⟨by decide, rfl, category, category, ?_, ?_, rfl⟩
    · exact ⟨_, rfl, _, List.mem_cons_self, rfl, rfl⟩
    · exact ⟨_, rfl, _, List.mem_cons_self, rfl, rfl⟩
  obtain ⟨artifact, compiled⟩ :
      ∃ artifact, splitCatalog.compile {} ⟨2, 0, 0⟩ = .ok artifact := ⟨_, rfl⟩
  obtain ⟨snapshot, groups, found, content, -, within, across⟩ :=
    Catalog.storeNames_distinct_iff valid compiled
  have isSecond : splitCatalog.snapshot ⟨2, 0, 0⟩ = .ok { entities := [genre, kind] } := rfl
  obtain rfl := Except.ok.inj (isSecond.symm.trans found)
  refine ⟨valid, clash, artifact, compiled, _, groups, found, content, within, ?_⟩
  intro distinct
  have genreBoundary : (genre, ⟨1, 0, 0⟩) ∈
      Snapshot.boundaries { entities := [genre, kind] } := List.mem_cons_self
  have kindBoundary : (kind, ⟨1, 0, 0⟩) ∈
      Snapshot.boundaries { entities := [genre, kind] } :=
    List.mem_cons_of_mem _ (List.mem_cons_of_mem _ List.mem_cons_self)
  exact across.1 distinct _ genreBoundary _ kindBoundary clash

theorem genre_stored_apart :
    genre.labels = [⟨1, 0, 0⟩, ⟨2, 0, 0⟩] ∧
      ∃ shapes blocks, splitCatalog.shapes genre ⟨2, 0, 0⟩ [⟨1, 0, 0⟩] = .ok shapes ∧
        List.Forall₂ Shape.DrawnAs shapes blocks ∧
        blocks.map (·.storeName) = ["Category_1_0_0", "Genre_2_0_0"] ∧
        (blocks.map (·.storeName)).Nodup := by
  have ascending : genre.labels.Pairwise (· < ·) := by decide
  obtain ⟨shapes, blocks, resolved, drawn, names⟩ :
      ∃ shapes blocks, splitCatalog.shapes genre ⟨2, 0, 0⟩ [⟨1, 0, 0⟩] = .ok shapes ∧
        List.Forall₂ Shape.DrawnAs shapes blocks ∧
        blocks.map (·.storeName) = ["Category_1_0_0", "Genre_2_0_0"] :=
    ⟨_, [_, _], rfl,
      .cons ⟨some "Category", .current, rfl⟩ (.cons ⟨none, .legacy, rfl⟩ .nil), rfl⟩
  obtain ⟨-, distinct⟩ := Catalog.storeNames_separate.2 splitCatalog genre ⟨2, 0, 0⟩ [⟨1, 0, 0⟩]
    shapes ascending resolved
  exact ⟨rfl, shapes, blocks, resolved, drawn, names, distinct blocks drawn⟩

def twinCatalog : Catalog where
  snapshots := [(⟨1, 0, 0⟩, { entities := [category, { category with name := "category" }] })]
  ascending := by unfold Ascending.Sorted; decide

/-- A valid catalog whose two blocks are stored under one name. -/
theorem twins_share_store_name :
    twinCatalog.validate = .ok () ∧
      ∃ document, twinCatalog.document {} ⟨1, 0, 0⟩ = .ok document ∧
        twinCatalog.compile {} ⟨1, 0, 0⟩ =
          .ok { name := "contents", content := document.render } ∧
        document.blocks.map (·.storeName) = ["Category_1_0_0", "Category_1_0_0"] ∧
        ¬(document.blocks.map (·.storeName)).Nodup :=
  ⟨rfl, _, rfl, rfl, rfl, by decide⟩

end Cinema

end SchemaHistory
