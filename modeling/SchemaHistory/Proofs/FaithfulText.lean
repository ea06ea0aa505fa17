import SchemaHistory.Proofs.AttributeNames
import SchemaHistory.Proofs.QuotedValues
import SchemaHistory.Proofs.Spelling
import SchemaHistory.Proofs.VersionText

/-!
Which documents are read as they are meant. Former names and defaults are escaped, and versions and
constants are plain, so these are always read back. Names are written as they are spelled; and since a
spelling keeps the marks of its name, a document is faithful exactly when no name in use has a mark. The
rules for names allow every character of ASCII, so they do not rule marks out.
-/

namespace SchemaHistory

open Markup Traversal

set_option autoImplicit false

theorem not_mark_of_isDigit {char : Char} (isDigit : char.isDigit = true) : char ∉ marks := by
  intro isMark
  simp only [marks, List.mem_cons, List.not_mem_nil, or_false] at isMark
  rcases isMark with rfl | rfl | rfl <;> simp at isDigit

theorem Version.plain_charsWith {separator : Char} (unmarked : separator ∉ marks) (version : Version) :
    Plain (version.charsWith separator) := by
  rw [plain_iff_forall]
  intro char member
  rcases mem_charsWith member with rfl | isDigit
  · exact unmarked
  · exact not_mark_of_isDigit isDigit

theorem Version.plain_dotted (version : Version) : Plain version.dotted.toList := by
  rw [toList_dotted]
  exact plain_charsWith (by decide) version

theorem Version.plain_underscored (version : Version) : Plain version.underscored.toList := by
  rw [toList_underscored]
  exact plain_charsWith (by decide) version

theorem StorageType.plain_name (storage : StorageType) : Plain storage.name.toList := by
  cases storage <;> decide

theorem plain_yesNo (value : Bool) : Plain (yesNo value).toList := by
  cases value <;> decide

theorem NamingMode.plain_endings (mode : NamingMode) :
    Plain mode.typeUidEnding.toList ∧ Plain mode.extraFlagEnding.toList := by
  cases mode <;> decide

theorem Entity.plain_bookkeepingNames (entity : Entity) (mode : NamingMode) :
    ∀ name ∈ entity.bookkeepingNames mode, Plain name.toList := by
  unfold bookkeepingNames
  cases entity.isRemote <;> cases entity.readsRemotely <;> cases mode <;> decide

theorem faithful_elementId (elementId : Option String) :
    ∀ value ∈ quotedElementId elementId, value.Faithful := by
  intro value member
  obtain ⟨name, -, rfl⟩ := List.mem_map.1 member
  exact Quoted.faithful_escaped "elementID" name

theorem faithful_default (defaultValue : Option DefaultValue) :
    ∀ value ∈ quotedDefault defaultValue, value.Faithful := by
  intro value member
  obtain ⟨default, -, rfl⟩ := List.mem_map.1 member
  exact Quoted.faithful_escaped default.attributeName default.literal

theorem Optionality.faithful_early (optionality : Optionality) :
    ∀ value ∈ optionality.quotedEarly, value.Faithful := by
  cases optionality with
  | said value => simp [quotedEarly, Quoted.faithful_verbatim_iff, plain_yesNo]
  | unsaid => simp [quotedEarly]
  | saidLast value => simp [quotedEarly]

theorem Optionality.faithful_late (optionality : Optionality) :
    ∀ value ∈ optionality.quotedLate, value.Faithful := by
  cases optionality with
  | saidLast value => simp [quotedLate, Quoted.faithful_verbatim_iff, plain_yesNo]
  | unsaid => simp [quotedLate]
  | said value => simp [quotedLate]

theorem Attribute.faithful_or_name (column : Attribute) {value : Quoted}
    (member : value ∈ column.quoted) : value.Faithful ∨ value = .verbatim "name" column.name := by
  simp only [quoted, List.mem_append, List.mem_singleton] at member
  rcases member with
    ((((((isName | early) | rfl) | unboxed) | rfl) | late) | elementId) | isDefault
  · exact Or.inr isName
  · exact Or.inl (column.optionality.faithful_early value early)
  · exact Or.inl (Quoted.faithful_verbatim_iff.2 column.storage.plain_name)
  · split_ifs at unboxed
    · obtain rfl := List.mem_singleton.1 unboxed
      exact Or.inl (Quoted.faithful_verbatim_iff.2 (by decide))
    · simp at unboxed
  · exact Or.inl (Quoted.faithful_verbatim_iff.2 (by decide))
  · exact Or.inl (column.optionality.faithful_late value late)
  · exact Or.inl (faithful_elementId column.elementId value elementId)
  · exact Or.inl (faithful_default column.defaultValue value isDefault)

theorem Attribute.name_mem_quoted (column : Attribute) :
    .verbatim "name" column.name ∈ column.quoted := by
  simp [quoted]

namespace Block

/-- The names that a block writes as they are. -/
def quotedNames (block : Block) : List Quoted :=
  [.verbatim "name" block.storeName, .verbatim "representedClassName" block.className] ++
    block.attributes.map fun column => .verbatim "name" column.name

theorem faithful_or_name (block : Block) {value : Quoted} (member : value ∈ block.quoted) :
    value.Faithful ∨ value ∈ block.quotedNames := by
  rcases List.mem_append.1 member with opening | inAttributes
  · simp only [quotedOpening, List.mem_append, List.mem_singleton] at opening
    rcases opening with (((isStoreName | isClassName) | rfl) | rfl) | elementId
    · exact Or.inr (by simp [quotedNames, isStoreName])
    · exact Or.inr (by simp [quotedNames, isClassName])
    · exact Or.inl (Quoted.faithful_verbatim_iff.2 (by decide))
    · exact Or.inl (Quoted.faithful_verbatim_iff.2 (by decide))
    · exact Or.inl (faithful_elementId block.elementId value elementId)
  · obtain ⟨column, isColumn, inColumn⟩ := List.mem_flatMap.1 inAttributes
    rcases column.faithful_or_name inColumn with faithful | rfl
    · exact Or.inl faithful
    · exact Or.inr (List.mem_append_right _ (List.mem_map.2 ⟨column, isColumn, rfl⟩))

theorem quotedNames_subset (block : Block) : block.quotedNames ⊆ block.quoted := by
  intro value member
  rcases List.mem_append.1 member with own | ofAttribute
  · apply List.mem_append_left
    simp only [List.mem_cons, List.not_mem_nil, or_false] at own
    rcases own with rfl | rfl <;> simp [quotedOpening]
  · obtain ⟨column, isColumn, rfl⟩ := List.mem_map.1 ofAttribute
    exact List.mem_append_right _ (List.mem_flatMap.2 ⟨column, isColumn, column.name_mem_quoted⟩)

end Block

namespace Document

theorem faithful_or_name (document : Document) {value : Quoted} (member : value ∈ document.quoted) :
    value.Faithful ∨ ∃ block ∈ document.blocks, value ∈ block.quotedNames := by
  have declarationPlain : ∀ value ∈ quotedDeclaration, value.Faithful := by
    simp only [quotedDeclaration, List.forall_mem_append, List.forall_mem_singleton,
      Quoted.faithful_verbatim_iff]
    decide
  have openingPlain : ∀ value ∈ quotedOpening document.version, value.Faithful := by
    simp only [quotedOpening, List.forall_mem_append, List.forall_mem_singleton,
      Quoted.faithful_verbatim_iff, document.version.plain_dotted, and_true]
    decide
  rcases List.mem_append.1 member with header | inBlocks
  · rcases List.mem_append.1 header with declaration | opening
    · exact Or.inl (declarationPlain value declaration)
    · exact Or.inl (openingPlain value opening)
  · obtain ⟨block, isBlock, inBlock⟩ := List.mem_flatMap.1 inBlocks
    exact (block.faithful_or_name inBlock).imp_right fun isName => ⟨block, isBlock, isName⟩

theorem faithful_iff (document : Document) :
    (∀ value ∈ document.quoted, value.Faithful) ↔
      ∀ block ∈ document.blocks, ∀ value ∈ block.quotedNames, value.Faithful := by
  constructor
  · intro faithful block isBlock value isName
    apply faithful
    exact List.mem_append_right _ (List.mem_flatMap.2 ⟨block, isBlock, block.quotedNames_subset isName⟩)
  · intro namesFaithful value member
    rcases document.faithful_or_name member with faithful | ⟨block, isBlock, isName⟩
    · exact faithful
    · exact namesFaithful block isBlock value isName

end Document

/-- Neither the name of the entity nor that of a property in use has a mark. -/
structure Entity.PlainNames (entity : Entity) : Prop where
  name : Plain entity.name.toList
  propertyNames : ∀ property ∈ entity.usedProperties, Plain property.name.toList

namespace Entity

variable {entity : Entity} {mode : NamingMode} {label : Version}

theorem plain_storeName_iff (sound : entity.Sound) :
    Plain (entity.storeName label).toList ↔ Plain entity.name.toList := by
  have ascii : Text.IsAscii entity.name.toList := sound.properName.2
  have line : Plain ("_" : String).toList := by decide
  simp only [storeName, String.toList_append, String.toList_ofList, plain_append,
    label.plain_underscored, line, and_true, Text.plain_pascalCase_iff ascii]

theorem plain_className_iff :
    Plain (entity.className label).toList ↔ Plain (entity.storeName label).toList := by
  have managed : Plain ("Managed" : String).toList := by decide
  rw [className, String.toList_append, plain_append, and_iff_right managed]

end Entity

namespace Property

variable {property : Property} {mode : NamingMode}

theorem plain_attributeNames_iff :
    (∀ name ∈ property.attributeNames mode, Plain name.toList) ↔
      Plain (property.spelled mode).toList := by
  have oneLine : Plain ("_" : String).toList := by decide
  have twoLines : Plain ("__" : String).toList := by decide
  have endingsPlain : ∀ ending ∈ property.endings mode, Plain ending.toList := by
    intro ending isEnding
    rcases mem_endings.1 isEnding with ⟨-, rfl | rfl⟩ | ⟨-, rfl⟩
    · decide
    · exact mode.plain_endings.1
    · exact mode.plain_endings.2
  constructor
  · intro plain
    have first := plain _ List.mem_cons_self
    rw [String.toList_append, plain_append] at first
    exact first.2
  · intro plain name member
    rcases List.mem_cons.1 member with rfl | isLong
    · rw [String.toList_append, plain_append]
      exact ⟨oneLine, plain⟩
    · obtain ⟨ending, isEnding, rfl⟩ := List.mem_map.1 isLong
      rw [String.toList_append, String.toList_append, plain_append, plain_append]
      exact ⟨⟨twoLines, plain⟩, endingsPlain ending isEnding⟩

end Property

namespace Block.HasNamesOf

variable {block : Block} {drawn : Entity} {label : Version} {mode : NamingMode}

theorem plain_attributes_iff (hasNames : block.HasNamesOf drawn label mode) (sound : drawn.Sound) :
    (∀ column ∈ block.attributes, Plain column.name.toList) ↔
      ∀ property ∈ drawn.usedProperties, Plain property.name.toList := by
  have spelledAlike : ∀ property ∈ drawn.usedProperties,
      Plain (property.spelled mode).toList ↔ Plain property.name.toList := by
    intro property isUsed
    have proper := sound.properPropertyNames property (List.mem_of_mem_filter isUsed)
    exact NamingMode.plain_propertyName_iff proper.2
  calc (∀ column ∈ block.attributes, Plain column.name.toList)
      ↔ ∀ name ∈ block.attributes.map (·.name), Plain name.toList := by
        rw [List.forall_mem_map]
    _ ↔ ∀ name ∈ drawn.usedProperties.flatMap (·.attributeNames mode), Plain name.toList := by
        rw [hasNames.attributeNames, List.forall_mem_append,
          and_iff_right (drawn.plain_bookkeepingNames mode)]
    _ ↔ ∀ property ∈ drawn.usedProperties, Plain (property.spelled mode).toList := by
        simp only [List.forall_mem_flatMap, Property.plain_attributeNames_iff]
    _ ↔ ∀ property ∈ drawn.usedProperties, Plain property.name.toList :=
        forall₂_congr spelledAlike

theorem faithful_iff (hasNames : block.HasNamesOf drawn label mode) (sound : drawn.Sound) :
    (∀ value ∈ block.quotedNames, value.Faithful) ↔ drawn.PlainNames := by
  have namesPlain : (∀ value ∈ block.quotedNames, value.Faithful) ↔
      (Plain block.storeName.toList ∧ Plain block.className.toList) ∧
        ∀ column ∈ block.attributes, Plain column.name.toList := by
    simp [quotedNames, Quoted.faithful_verbatim_iff, and_assoc]
  rw [namesPlain, hasNames.plain_attributes_iff sound, hasNames.storeName, hasNames.className,
    Entity.plain_className_iff, and_self, Entity.plain_storeName_iff sound]
  constructor
  · intro plain
    exact ⟨plain.1, plain.2⟩
  · intro plain
    exact ⟨plain.name, plain.propertyNames⟩

end Block.HasNamesOf

namespace Catalog

variable {catalog : Catalog} {config : Config} {current : Version}

/-- Blocks that show boundaries write their names faithfully exactly when the entities from which they are
drawn have plain names. -/
theorem names_faithful_of_shown {boundaries : List (Entity × Version)} {blocks : List Block}
    (sound : catalog.Sound) (ascending : ∀ boundary ∈ boundaries, boundary.1.labels.Pairwise (· < ·))
    (shown : List.Forall₂ (catalog.Shows config current) boundaries blocks) :
    (∀ block ∈ blocks, ∀ value ∈ block.quotedNames, value.Faithful) ↔
      ∀ boundary ∈ boundaries, ∀ drawn,
        catalog.DrawnFrom config current boundary drawn → drawn.PlainNames := by
  constructor
  · intro faithful boundary isBoundary drawn isDrawn
    obtain ⟨block, isBlock, shows⟩ :
        ∃ block ∈ blocks, catalog.Shows config current boundary block :=
      exists_item_of_result shown.flip isBoundary
    obtain ⟨shownEntity, isShown, hasNames⟩ := shows.drawnFrom
    obtain rfl := isShown.unique (ascending boundary isBoundary) isDrawn
    exact (hasNames.faithful_iff (isShown.sound sound)).1 (faithful block isBlock)
  · intro plain block isBlock
    obtain ⟨boundary, isBoundary, shows⟩ := exists_item_of_result shown isBlock
    obtain ⟨drawn, isDrawn, hasNames⟩ := shows.drawnFrom
    exact (hasNames.faithful_iff (isDrawn.sound sound)).2 (plain boundary isBoundary drawn isDrawn)

/-- A document of a valid catalog is made of the values it quotes. All of them but names are safe and read
as they are meant. The names are as well exactly when no entity from which a block is drawn has a mark in
its name or in that of a property in use; and then a reader finds all keys with what their values are meant
to say. -/
theorem values_faithful_iff (valid : catalog.validate = .ok ()) {artifact : Artifact}
    (compiled : catalog.compile config current = .ok artifact) :
    ∃ (snapshot : Snapshot) (document : Document),
      catalog.snapshot current = .ok snapshot ∧ catalog.document config current = .ok document ∧
      artifact.content = document.render ∧ Written document.quoted artifact.content ∧
      (∀ value ∈ document.quoted,
        value.Faithful ∨ ∃ block ∈ document.blocks, value ∈ block.quotedNames) ∧
      ((∀ value ∈ document.quoted, value.Faithful) ↔
        ∀ boundary ∈ snapshot.boundaries, ∀ drawn,
          catalog.DrawnFrom config current boundary drawn → drawn.PlainNames) ∧
      ((∀ value ∈ document.quoted, value.Faithful) →
        readAttributes artifact.content =
          document.quoted.map fun value => (value.key, value.meant)) := by
  obtain ⟨passes, snapshot, groups, found, draws, rfl⟩ := compile_eq_ok.1 compiled
  have sound := sound_of_valid valid
  let document : Document := { version := current, blocks := groups.flatten }
  have documented : catalog.document config current = .ok document :=
    document_eq_ok.2 ⟨passes, snapshot, groups, found, draws, rfl⟩
  refine ⟨snapshot, document, found, documented, rfl, document.written,
    fun value member => document.faithful_or_name member, ?_, document.written.readAttributes_eq⟩
  rw [document.faithful_iff]
  apply names_faithful_of_shown sound ?_ (shows_of_draws draws)
  intro boundary isBoundary
  exact (sound_of_mem_boundaries valid found isBoundary).2.labels_ascend

end Catalog

namespace Cinema

def bilingualFilm : Entity where
  name := "Film"
  isPersisted := true
  addedAt := some ⟨1, 0, 0⟩
  previousName := some "Film \"&\" Movie"
  properties := [{ name := "title", type := .scalar .string, previousName := some "<title>"
                   defaultValue := some (.text "Heat & \"Dust\" &amp;") }]

def bilingualCatalog : Catalog where
  snapshots := [(⟨1, 0, 0⟩, { entities := [bilingualFilm] })]
  ascending := by unfold Ascending.Sorted; decide

theorem bilingualFilm_read_back :
    bilingualCatalog.validate = .ok () ∧
      ∃ artifact, bilingualCatalog.compile {} ⟨1, 0, 0⟩ = .ok artifact ∧
        ∀ pair ∈ [("elementID", "Film \"&\" Movie"), ("elementID", "_<title>"),
          ("defaultValueString", "Heat & \"Dust\" &amp;")],
          pair ∈ readAttributes artifact.content := by
  have valid : bilingualCatalog.validate = .ok () := rfl
  obtain ⟨artifact, compiled⟩ :
      ∃ artifact, bilingualCatalog.compile {} ⟨1, 0, 0⟩ = .ok artifact := ⟨_, rfl⟩
  obtain ⟨snapshot, document, found, documented, -, -, -, faithfulIff, readBack⟩ :=
    Catalog.values_faithful_iff valid compiled
  have isFirst : bilingualCatalog.snapshot ⟨1, 0, 0⟩ = .ok { entities := [bilingualFilm] } := rfl
  obtain rfl := Except.ok.inj (isFirst.symm.trans found)
  have drawnFromFilm :
      bilingualCatalog.DrawnFrom {} ⟨1, 0, 0⟩ (bilingualFilm, ⟨1, 0, 0⟩) bilingualFilm :=
    ⟨_, rfl, _, List.mem_cons_self, rfl, rfl⟩
  have faithful : ∀ value ∈ document.quoted, value.Faithful := by
    apply faithfulIff.2
    intro boundary isBoundary drawn isDrawn
    obtain rfl := List.mem_singleton.1 isBoundary
    obtain rfl := isDrawn.unique (by decide) drawnFromFilm
    exact ⟨by decide, by decide⟩
  refine ⟨valid, artifact, compiled, ?_⟩
  rw [readBack faithful]
  obtain rfl : _ = document := Except.ok.inj documented
  decide

def markedFilm : Entity :=
  { bilingualFilm with properties := [{ name := "title\"", type := .scalar .string }] }

def markedCatalog : Catalog where
  snapshots := [(⟨1, 0, 0⟩, { entities := [markedFilm] })]
  ascending := by unfold Ascending.Sorted; decide

/-- A valid catalog whose document has a quote in a value: a reader finds another name, and after that takes
what is outside of quotes for values. -/
theorem markedFilm_breaks_quotes :
    markedCatalog.validate = .ok () ∧
      ∃ document, markedCatalog.document {} ⟨1, 0, 0⟩ = .ok document ∧
        markedCatalog.compile {} ⟨1, 0, 0⟩ = .ok { name := "contents", content := document.render } ∧
        (∃ value ∈ document.quoted, value.key = "name" ∧ '"' ∈ value.written.toList) ∧
        ∃ block ∈ document.blocks, ∃ column ∈ block.attributes, column.name = "_title\"" ∧
          readAttributes column.render =
            [("name", "_title"), ("", " attributeType="), ("String", " syncable=")] := by
  refine ⟨rfl, _, rfl, rfl, ?_, ?_⟩
  · decide
  · refine ⟨_, List.mem_cons_self, { name := "_title\"", storage := .string }, ?_, rfl, ?_⟩
    · exact List.mem_append_right _ List.mem_cons_self
    · decide +kernel

end Cinema

end SchemaHistory
