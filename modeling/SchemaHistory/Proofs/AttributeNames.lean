import SchemaHistory.Proofs.DrawnEntity

/-!
When the attributes of a block have different names. A property gives its spelling to one attribute after
one low line, and to others after two low lines and with an ending. Inside one property these never
meet, and neither do two different endings. What remains are the spellings themselves: two that are
the same, one that reads like another with what is put around it, and one that is a name of bookkeeping.
-/

namespace SchemaHistory

open Traversal

set_option autoImplicit false

namespace Property

variable {property other : Property} {mode : NamingMode}

def spelled (property : Property) (mode : NamingMode) : String := mode.propertyName property.name

/-- What follows the spelling in the names that begin with two low lines. -/
def endings (property : Property) (mode : NamingMode) : List String :=
  (if property.isSingular then ["", mode.typeUidEnding] else []) ++
    (if property.isExtra then [mode.extraFlagEnding] else [])

def attributeNames (property : Property) (mode : NamingMode) : List String :=
  ("_" ++ property.spelled mode) ::
    (property.endings mode).map fun ending => "__" ++ property.spelled mode ++ ending

theorem names_of_attributes (property : Property) (storage : StorageType) (mode : NamingMode) :
    (property.attributes storage mode).map (·.name) = property.attributeNames mode := by
  by_cases singular : property.isSingular <;> by_cases extra : property.isExtra <;>
    simp [attributes, referenceAttributes, valueAttribute, extraFlag, attributeNames, endings,
      spelled, singular, extra]

theorem mem_endings {ending : String} :
    ending ∈ property.endings mode ↔
      property.isSingular = true ∧ (ending = "" ∨ ending = mode.typeUidEnding) ∨
        property.isExtra = true ∧ ending = mode.extraFlagEnding := by
  by_cases singular : property.isSingular <;> by_cases extra : property.isExtra <;>
    simp [endings, singular, extra, or_assoc]

end Property

namespace NamingMode

theorem typeUidEnding_ne_empty (mode : NamingMode) : mode.typeUidEnding ≠ "" := by
  cases mode <;> decide

theorem extraFlagEnding_ne_empty (mode : NamingMode) : mode.extraFlagEnding ≠ "" := by
  cases mode <;> decide

theorem append_endings_ne (mode : NamingMode) (text other : String) :
    text ++ mode.typeUidEnding ≠ other ++ mode.extraFlagEnding := by
  intro same
  have sameLast := congrArg (fun text : String => text.toList.getLast?) same
  cases mode <;> simp [typeUidEnding, extraFlagEnding] at sameLast

end NamingMode

theorem one_line_eq_two_lines {text other ending : String} :
    "_" ++ text = "__" ++ other ++ ending ↔ text = "_" ++ other ++ ending := by
  have twoLines : "__" ++ other ++ ending = "_" ++ ("_" ++ other ++ ending) := by
    simp [← String.toList_inj]
  rw [twoLines, String.append_right_inj]

theorem two_lines_eq_iff {text other ending otherEnding : String} :
    "__" ++ text ++ ending = "__" ++ other ++ otherEnding ↔ text ++ ending = other ++ otherEnding := by
  rw [String.append_assoc, String.append_assoc, String.append_right_inj]

theorem ne_append_of_ne_empty {text ending : String} (filled : ending ≠ "") : text ≠ text ++ ending := by
  intro same
  have sameLength := congrArg String.length same
  rw [String.length_append] at sameLength
  have noLength : ending.length = 0 := by omega
  exact filled (String.length_eq_zero_iff.1 noLength)

theorem ne_line_append (text ending : String) : text ≠ "_" ++ text ++ ending := by
  intro same
  have sameLength := congrArg String.length same
  have lineLength : ("_" : String).length = 1 := rfl
  rw [String.length_append, String.length_append] at sameLength
  omega

namespace Property

variable {property other : Property} {mode : NamingMode}

theorem attributeNames_nodup (property : Property) (mode : NamingMode) :
    (property.attributeNames mode).Nodup := by
  have endingsDistinct : (property.endings mode).Nodup := by
    by_cases singular : property.isSingular <;> by_cases extra : property.isExtra <;>
      cases mode <;> simp [endings, singular, extra, NamingMode.typeUidEnding,
        NamingMode.extraFlagEnding]
  refine List.nodup_cons.2 ⟨?_, ?_⟩
  · intro member
    obtain ⟨ending, -, same⟩ := List.mem_map.1 member
    exact ne_line_append _ _ (one_line_eq_two_lines.1 same.symm)
  · refine endingsDistinct.map_on ?_
    intro ending _ otherEnding _ same
    exact (String.append_right_inj _).1 same

/-- The spelling of the one reads like that of the other with a low line before it and an ending of the
other after it. -/
def ReadsAsBelow (property other : Property) (mode : NamingMode) : Prop :=
  ∃ ending ∈ other.endings mode, property.spelled mode = "_" ++ other.spelled mode ++ ending

/-- The one refers to a record, and its spelling reads like that of the other with an ending of the other
after it. -/
def ReadsAsLengthened (property other : Property) (mode : NamingMode) : Prop :=
  property.isSingular = true ∧
    ∃ ending ∈ other.endings mode, ending ≠ "" ∧
      property.spelled mode = other.spelled mode ++ ending

theorem not_readsAsBelow_self (property : Property) (mode : NamingMode) :
    ¬property.ReadsAsBelow property mode := by
  intro below
  obtain ⟨ending, -, same⟩ := below
  exact ne_line_append _ _ same

theorem not_readsAsLengthened_self (property : Property) (mode : NamingMode) :
    ¬property.ReadsAsLengthened property mode := by
  intro lengthened
  obtain ⟨-, ending, -, filled, same⟩ := lengthened
  exact ne_append_of_ne_empty filled same

theorem lengthened_of_eq {ending otherEnding : String} (isEnding : ending ∈ property.endings mode)
    (isOther : otherEnding ∈ other.endings mode)
    (different : property.spelled mode ≠ other.spelled mode)
    (same : property.spelled mode ++ ending = other.spelled mode ++ otherEnding) :
    property.ReadsAsLengthened other mode ∨ other.ReadsAsLengthened property mode := by
  rcases mem_endings.1 isEnding with ⟨singular, rfl | rfl⟩ | ⟨-, rfl⟩ <;>
    rcases mem_endings.1 isOther with ⟨otherSingular, rfl | rfl⟩ | ⟨-, rfl⟩
  · exact absurd (by simpa using same) different
  · rw [String.append_empty] at same
    exact Or.inl ⟨singular, _, isOther, mode.typeUidEnding_ne_empty, same⟩
  · rw [String.append_empty] at same
    exact Or.inl ⟨singular, _, isOther, mode.extraFlagEnding_ne_empty, same⟩
  · rw [String.append_empty] at same
    exact Or.inr ⟨otherSingular, _, isEnding, mode.typeUidEnding_ne_empty, same.symm⟩
  · exact absurd ((String.append_left_inj _).1 same) different
  · exact absurd same (mode.append_endings_ne _ _)
  · rw [String.append_empty] at same
    exact Or.inr ⟨otherSingular, _, isEnding, mode.extraFlagEnding_ne_empty, same.symm⟩
  · exact absurd same.symm (mode.append_endings_ne _ _)
  · exact absurd ((String.append_left_inj _).1 same) different

theorem ReadsAsLengthened.shares (lengthened : property.ReadsAsLengthened other mode) :
    ∃ name, name ∈ property.attributeNames mode ∧ name ∈ other.attributeNames mode := by
  obtain ⟨singular, ending, isEnding, -, same⟩ := lengthened
  refine ⟨"__" ++ other.spelled mode ++ ending, ?_, ?_⟩
  · refine List.mem_cons_of_mem _ (List.mem_map.2 ⟨"", ?_, ?_⟩)
    · exact mem_endings.2 (Or.inl ⟨singular, Or.inl rfl⟩)
    · rw [two_lines_eq_iff, String.append_empty, same]
  · exact List.mem_cons_of_mem _ (List.mem_map.2 ⟨ending, isEnding, rfl⟩)

theorem ReadsAsBelow.shares (below : property.ReadsAsBelow other mode) :
    ∃ name, name ∈ property.attributeNames mode ∧ name ∈ other.attributeNames mode := by
  obtain ⟨ending, isEnding, same⟩ := below
  refine ⟨"__" ++ other.spelled mode ++ ending, ?_, ?_⟩
  · rw [← one_line_eq_two_lines.2 same]
    exact List.mem_cons_self
  · exact List.mem_cons_of_mem _ (List.mem_map.2 ⟨ending, isEnding, rfl⟩)

/-- Two properties whose spellings cannot be mistaken for each other. -/
structure Apart (property other : Property) (mode : NamingMode) : Prop where
  spelled : property.spelled mode ≠ other.spelled mode
  notBelow : ¬property.ReadsAsBelow other mode
  notAbove : ¬other.ReadsAsBelow property mode
  notLengthened : ¬property.ReadsAsLengthened other mode
  notShortened : ¬other.ReadsAsLengthened property mode

theorem Apart.symm (apart : property.Apart other mode) : other.Apart property mode :=
  ⟨apart.spelled.symm, apart.notAbove, apart.notBelow, apart.notShortened, apart.notLengthened⟩

theorem disjoint_iff_apart :
    List.Disjoint (property.attributeNames mode) (other.attributeNames mode) ↔
      property.Apart other mode := by
  constructor
  · intro disjoint
    have noneShared :
        ¬∃ name, name ∈ property.attributeNames mode ∧ name ∈ other.attributeNames mode := by
      intro shared
      obtain ⟨name, here, there⟩ := shared
      exact disjoint here there
    have noneSharedBack :
        ¬∃ name, name ∈ other.attributeNames mode ∧ name ∈ property.attributeNames mode := by
      simpa only [and_comm] using noneShared
    refine ⟨?_, fun below => noneShared below.shares, fun below => noneSharedBack below.shares,
      fun lengthened => noneShared lengthened.shares,
      fun lengthened => noneSharedBack lengthened.shares⟩
    intro same
    refine disjoint List.mem_cons_self ?_
    rw [same]
    exact List.mem_cons_self
  · intro apart name here there
    rcases List.mem_cons.1 here with rfl | isLong <;> rcases List.mem_cons.1 there with same | isLongToo
    · exact apart.spelled ((String.append_right_inj _).1 same)
    · obtain ⟨ending, isEnding, same⟩ := List.mem_map.1 isLongToo
      exact apart.notBelow ⟨ending, isEnding, one_line_eq_two_lines.1 same.symm⟩
    · obtain ⟨ending, isEnding, rfl⟩ := List.mem_map.1 isLong
      exact apart.notAbove ⟨ending, isEnding, one_line_eq_two_lines.1 same.symm⟩
    · obtain ⟨ending, isEnding, rfl⟩ := List.mem_map.1 isLong
      obtain ⟨otherEnding, isOther, same⟩ := List.mem_map.1 isLongToo
      rcases lengthened_of_eq isEnding isOther apart.spelled (two_lines_eq_iff.1 same.symm) with
        lengthened | shortened
      · exact apart.notLengthened lengthened
      · exact apart.notShortened shortened

end Property

namespace Entity

variable {entity : Entity} {mode : NamingMode}

def bookkeepingNames (entity : Entity) (mode : NamingMode) : List String :=
  ["_identifier", "__identifier", mode.typeUid] ++
    (if entity.isRemote then [mode.remoteState] else []) ++
    (if entity.readsRemotely then [mode.lastRemoteRead] else [])

theorem names_of_bookkeeping (entity : Entity) (identifier : StorageType) (mode : NamingMode) :
    (entity.bookkeeping identifier mode).map (·.name) = entity.bookkeepingNames mode := by
  by_cases remote : entity.isRemote <;> by_cases reads : entity.readsRemotely <;>
    simp [bookkeeping, bookkeepingNames, remote, reads]

theorem bookkeepingNames_nodup (entity : Entity) (mode : NamingMode) :
    (entity.bookkeepingNames mode).Nodup := by
  unfold bookkeepingNames
  cases entity.isRemote <;> cases entity.readsRemotely <;> cases mode <;> decide

theorem not_bookkeeping_of_ending {text ending : String}
    (isEnding : ending = mode.typeUidEnding ∨ ending = mode.extraFlagEnding) :
    "__" ++ text ++ ending ∉ entity.bookkeepingNames mode := by
  intro member
  have endsLikeIt : ∃ name ∈ entity.bookkeepingNames mode, ending.toList <:+ name.toList.drop 2 := by
    refine ⟨_, member, text.toList, ?_⟩
    simp
  revert endsLikeIt
  unfold bookkeepingNames
  rcases isEnding with rfl | rfl <;>
    cases entity.isRemote <;> cases entity.readsRemotely <;> cases mode <;> decide

/-- The spelling of the property makes a name of bookkeeping, after one low line or, where the property
refers to a record, after two. -/
def Reserves (entity : Entity) (mode : NamingMode) (property : Property) : Prop :=
  "_" ++ property.spelled mode ∈ entity.bookkeepingNames mode ∨
    property.isSingular = true ∧ "__" ++ property.spelled mode ∈ entity.bookkeepingNames mode

theorem disjoint_bookkeeping_iff {property : Property} :
    List.Disjoint (entity.bookkeepingNames mode) (property.attributeNames mode) ↔
      ¬entity.Reserves mode property := by
  constructor
  · intro disjoint reserved
    rcases reserved with short | ⟨singular, long⟩
    · exact disjoint short List.mem_cons_self
    · refine disjoint long (List.mem_cons_of_mem _ (List.mem_map.2 ⟨"", ?_, ?_⟩))
      · exact Property.mem_endings.2 (Or.inl ⟨singular, Or.inl rfl⟩)
      · rw [String.append_empty]
  · intro free name isBookkeeping isAttribute
    rcases List.mem_cons.1 isAttribute with rfl | isLong
    · exact free (Or.inl isBookkeeping)
    · obtain ⟨ending, isEnding, rfl⟩ := List.mem_map.1 isLong
      rcases Property.mem_endings.1 isEnding with ⟨singular, rfl | isTypeUid⟩ | ⟨-, isFlag⟩
      · rw [String.append_empty] at isBookkeeping
        exact free (Or.inr ⟨singular, isBookkeeping⟩)
      · exact not_bookkeeping_of_ending (Or.inl isTypeUid) isBookkeeping
      · exact not_bookkeeping_of_ending (Or.inr isFlag) isBookkeeping

/-- The used properties of an entity are spelled so that no two of their attributes, and none of those of
bookkeeping, have one name. -/
structure NamesApart (entity : Entity) (mode : NamingMode) : Prop where
  spelledApart : (entity.usedProperties.map (·.spelled mode)).Nodup
  noneBelow : ∀ property ∈ entity.usedProperties, ∀ other ∈ entity.usedProperties,
    ¬property.ReadsAsBelow other mode
  noneLengthened : ∀ property ∈ entity.usedProperties, ∀ other ∈ entity.usedProperties,
    ¬property.ReadsAsLengthened other mode
  noneReserved : ∀ property ∈ entity.usedProperties, ¬entity.Reserves mode property

theorem pairwise_apart_iff {properties : List Property} :
    properties.Pairwise (fun property other => property.Apart other mode) ↔
      (properties.map (·.spelled mode)).Nodup ∧
        (∀ property ∈ properties, ∀ other ∈ properties, ¬property.ReadsAsBelow other mode) ∧
        ∀ property ∈ properties, ∀ other ∈ properties, ¬property.ReadsAsLengthened other mode := by
  constructor
  · intro apart
    have symmetric : Std.Symm fun property other : Property => property.Apart other mode :=
      ⟨fun _ _ each => each.symm⟩
    refine ⟨List.pairwise_map.2 (apart.imp Property.Apart.spelled), ?_, ?_⟩
    · intro property member other otherMember below
      by_cases same : property = other
      · exact other.not_readsAsBelow_self mode (same ▸ below)
      · exact (apart.forall member otherMember same).notBelow below
    · intro property member other otherMember lengthened
      by_cases same : property = other
      · exact other.not_readsAsLengthened_self mode (same ▸ lengthened)
      · exact (apart.forall member otherMember same).notLengthened lengthened
  · intro holds
    obtain ⟨spelled, noneBelow, noneLengthened⟩ := holds
    refine (List.pairwise_map.1 spelled).imp_of_mem ?_
    intro property other member otherMember different
    exact ⟨different, noneBelow property member other otherMember,
      noneBelow other otherMember property member,
      noneLengthened property member other otherMember,
      noneLengthened other otherMember property member⟩

theorem attributeNames_nodup_iff :
    (entity.bookkeepingNames mode ++
        entity.usedProperties.flatMap (·.attributeNames mode)).Nodup ↔
      entity.NamesApart mode := by
  have reserved :
      List.Disjoint (entity.bookkeepingNames mode)
          (entity.usedProperties.flatMap (·.attributeNames mode)) ↔
        ∀ property ∈ entity.usedProperties, ¬entity.Reserves mode property := by
    simp only [← disjoint_bookkeeping_iff, List.Disjoint, List.mem_flatMap]
    constructor
    · intro disjoint property member name isBookkeeping isAttribute
      exact disjoint isBookkeeping ⟨property, member, isAttribute⟩
    · intro disjoint name isBookkeeping shared
      obtain ⟨property, member, isAttribute⟩ := shared
      exact disjoint property member isBookkeeping isAttribute
  have within : (entity.usedProperties.flatMap (·.attributeNames mode)).Nodup ↔
      entity.usedProperties.Pairwise fun property other => property.Apart other mode := by
    rw [List.nodup_flatMap, and_iff_right fun property _ => property.attributeNames_nodup mode]
    exact List.Pairwise.iff fun _ _ => Property.disjoint_iff_apart
  rw [List.nodup_append', and_iff_right (entity.bookkeepingNames_nodup mode), within,
    pairwise_apart_iff, reserved]
  constructor
  · intro holds
    rcases holds with ⟨⟨spelled, noneBelow, noneLengthened⟩, noneReserved⟩
    exact ⟨spelled, noneBelow, noneLengthened, noneReserved⟩
  · intro apart
    rcases apart with ⟨spelled, noneBelow, noneLengthened, noneReserved⟩
    exact ⟨⟨spelled, noneBelow, noneLengthened⟩, noneReserved⟩

end Entity

theorem Block.HasNamesOf.attributeNames {block : Block} {drawn : Entity} {label : Version}
    {mode : NamingMode} (hasNames : block.HasNamesOf drawn label mode) :
    block.attributes.map (·.name) =
      drawn.bookkeepingNames mode ++ drawn.usedProperties.flatMap (·.attributeNames mode) := by
  obtain ⟨identifier, groups, typed, isList⟩ := hasNames.attributes
  have groupNames : groups.map (fun group => group.map (·.name)) =
      drawn.usedProperties.map (·.attributeNames mode) := by
    refine map_eq_of_results ?_ typed
    intro property group isGroup
    obtain ⟨storage, rfl⟩ := isGroup
    exact property.names_of_attributes storage mode
  rw [isList, List.map_append, Entity.names_of_bookkeeping, List.map_flatten, groupNames,
    List.flatMap_def]

namespace Catalog

variable {catalog : Catalog} {config : Config} {current : Version}

/-- In every document, the attributes of a block have different names exactly when the spellings of the
properties of the entity from which it is drawn are apart from one another and from bookkeeping. -/
theorem attributeNames_distinct_iff {artifact : Artifact}
    (compiled : catalog.compile config current = .ok artifact) :
    ∃ (snapshot : Snapshot) (groups : List (List Block)),
      catalog.snapshot current = .ok snapshot ∧
      artifact.content = Document.render { version := current, blocks := groups.flatten } ∧
      List.Forall₂
        (fun boundary block => ∃ drawn, catalog.DrawnFrom config current boundary drawn ∧
          ((block.attributes.map (·.name)).Nodup ↔ drawn.NamesApart config.naming))
        snapshot.boundaries groups.flatten := by
  obtain ⟨-, snapshot, groups, found, drawn, rfl⟩ := compile_eq_ok.1 compiled
  refine ⟨snapshot, groups, found, rfl, (shows_of_draws drawn).imp ?_⟩
  intro boundary block shows
  obtain ⟨drawnEntity, isDrawn, hasNames⟩ := shows.drawnFrom
  refine ⟨drawnEntity, isDrawn, ?_⟩
  rw [hasNames.attributeNames]
  exact Entity.attributeNames_nodup_iff

end Catalog

namespace Cinema

def shelf : Entity where
  name := "Shelf"
  isPersisted := true
  addedAt := some ⟨1, 0, 0⟩
  properties := [{ name := "genre", type := .toOne "Shelf" },
    { name := "genre_type_u_i_d", type := .toOne "Shelf" }]

def shelfCatalog : Catalog where
  snapshots := [(⟨1, 0, 0⟩, { entities := [shelf] })]
  ascending := by unfold Ascending.Sorted; decide

theorem shelf_apart_iff (mode : NamingMode) : shelf.NamesApart mode ↔ mode = .current := by
  rw [← Entity.attributeNames_nodup_iff]
  cases mode <;> decide

/-- In camel case the one reference is named like the type of the other, and in snake case it is not. -/
theorem shelf_attributes_by_mode :
    shelfCatalog.validate = .ok () ∧
      ∀ mode, ∃ artifact, shelfCatalog.compile { naming := mode } ⟨1, 0, 0⟩ = .ok artifact ∧
        ∃ groups : List (List Block),
          artifact.content = Document.render { version := ⟨1, 0, 0⟩, blocks := groups.flatten } ∧
          groups.flatten ≠ [] ∧
          ∀ block ∈ groups.flatten, (block.attributes.map (·.name)).Nodup ↔ mode = .current := by
  refine ⟨rfl, ?_⟩
  intro mode
  obtain ⟨artifact, compiled⟩ :
      ∃ artifact, shelfCatalog.compile { naming := mode } ⟨1, 0, 0⟩ = .ok artifact := by
    cases mode <;> exact ⟨_, rfl⟩
  obtain ⟨snapshot, groups, found, content, shown⟩ :=
    Catalog.attributeNames_distinct_iff compiled
  have isFirst : shelfCatalog.snapshot ⟨1, 0, 0⟩ = .ok { entities := [shelf] } := rfl
  obtain rfl := Except.ok.inj (isFirst.symm.trans found)
  have oneBoundary : Snapshot.boundaries { entities := [shelf] } = [(shelf, ⟨1, 0, 0⟩)] := rfl
  have drawnFromShelf :
      shelfCatalog.DrawnFrom { naming := mode } ⟨1, 0, 0⟩ (shelf, ⟨1, 0, 0⟩) shelf :=
    ⟨_, rfl, _, List.mem_cons_self, rfl, rfl⟩
  rw [oneBoundary] at shown
  refine ⟨artifact, compiled, groups, content, ?_, ?_⟩
  · intro noBlocks
    rw [noBlocks] at shown
    cases shown
  · intro block member
    obtain ⟨boundary, isBoundary, drawn, isDrawn, distinctIff⟩ :=
      exists_item_of_result shown member
    obtain rfl := List.mem_singleton.1 isBoundary
    obtain rfl := isDrawn.unique (by decide) drawnFromShelf
    rw [distinctIff, shelf_apart_iff]

def datedFilm : Entity where
  name := "Film"
  isPersisted := true
  addedAt := some ⟨1, 0, 0⟩
  properties := [{ name := "releaseDate", type := .scalar .date },
    { name := "release_date", type := .scalar .date }]

def datedCatalog : Catalog where
  snapshots := [(⟨1, 0, 0⟩, { entities := [datedFilm] })]
  ascending := by unfold Ascending.Sorted; decide

/-- A valid catalog with a block that has one name for two attributes, in either mode. -/
theorem datedFilm_attributes_collide :
    datedCatalog.validate = .ok () ∧
      ∀ mode, ∃ document, datedCatalog.document { naming := mode } ⟨1, 0, 0⟩ = .ok document ∧
        datedCatalog.compile { naming := mode } ⟨1, 0, 0⟩ =
          .ok { name := "contents", content := document.render } ∧
        ∃ block ∈ document.blocks, ¬(block.attributes.map (·.name)).Nodup := by
  refine ⟨rfl, ?_⟩
  intro mode
  cases mode <;> exact ⟨_, rfl, rfl, _, List.mem_cons_self, by decide⟩

end Cinema

end SchemaHistory
