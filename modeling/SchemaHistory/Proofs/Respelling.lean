import SchemaHistory.Proofs.Compilation

/-!
What the naming mode changes. It spells the names of attributes, and it chooses the ending after the
former name of the attribute that tells the type of a record referred to. Nothing is looked up by a name
so spelled: in both modes the same shapes are drawn from the same entities, or the same failure is met,
and the names of entities do not depend on the mode.
-/

namespace SchemaHistory

open Markup Traversal

set_option autoImplicit false

/-- The two attributes differ in their names at most, and in the ending that each mode puts after the
same former name. -/
structure Attribute.Respells (mode otherMode : NamingMode) (column other : Attribute) : Prop where
  storage : column.storage = other.storage
  optionality : column.optionality = other.optionality
  isUnboxed : column.isUnboxed = other.isUnboxed
  defaultValue : column.defaultValue = other.defaultValue
  elementId : column.elementId = other.elementId ∨
    ∃ stem, column.elementId = some (stem ++ mode.typeUidEnding) ∧
      other.elementId = some (stem ++ otherMode.typeUidEnding)

structure Block.Respells (mode otherMode : NamingMode) (block other : Block) : Prop where
  opening : block.opening = other.opening
  attributes : List.Forall₂ (Attribute.Respells mode otherMode) block.attributes other.attributes

structure Document.Respells (mode otherMode : NamingMode) (document other : Document) : Prop where
  version : document.version = other.version
  blocks : List.Forall₂ (Block.Respells mode otherMode) document.blocks other.blocks

variable {mode otherMode : NamingMode}

/-- The elements of the two are one text but for what stands in them as the name and the former name. -/
def Attribute.SameButNames (column other : Attribute) : Prop :=
  ∃ before between after,
    column.render = before ++ pair "name" column.name ++ between ++
      elementIdPair column.elementId ++ after ∧
    other.render = before ++ pair "name" other.name ++ between ++
      elementIdPair other.elementId ++ after

theorem Attribute.Respells.sameButNames {column other : Attribute}
    (respells : column.Respells mode otherMode other) : column.SameButNames other := by
  refine ⟨"        <attribute",
    column.optionality.earlyPair ++ pair "attributeType" column.storage.name ++
      (if column.isUnboxed then pair "usesScalarValueType" "YES" else "") ++
      pair "syncable" "YES" ++ column.optionality.latePair,
    (column.defaultValue.map DefaultValue.pair).getD "" ++ "/>", ?_, ?_⟩
  · unfold Attribute.render
    simp only [← String.append_assoc]
  · rw [respells.storage, respells.optionality, respells.isUnboxed, respells.defaultValue]
    unfold Attribute.render
    simp only [← String.append_assoc]

theorem Attribute.Respells.renamed (column : Attribute) (name : String) :
    Attribute.Respells mode otherMode column { column with name } :=
  ⟨rfl, rfl, rfl, rfl, .inl rfl⟩

theorem Entity.bookkeeping_respells (entity : Entity) (identifier : StorageType) :
    List.Forall₂ (Attribute.Respells mode otherMode) (entity.bookkeeping identifier mode)
      (entity.bookkeeping identifier otherMode) := by
  unfold bookkeeping
  refine List.rel_append (List.rel_append ?_ ?_) ?_
  · exact .cons (.renamed _ _) (.cons (.renamed _ _) (.cons (.renamed _ _) .nil))
  · split
    · exact .cons (.renamed _ _) .nil
    · exact .nil
  · split
    · exact .cons (.renamed _ _) .nil
    · exact .nil

namespace Property

theorem referenceAttributes_respell (property : Property) (storage : StorageType) :
    List.Forall₂ (Attribute.Respells mode otherMode) (property.referenceAttributes storage mode)
      (property.referenceAttributes storage otherMode) := by
  have typeUid :
      (property.previousName.map fun previous => "__" ++ previous ++ mode.typeUidEnding) =
          property.previousName.map (fun previous => "__" ++ previous ++ otherMode.typeUidEnding) ∨
        ∃ stem,
          (property.previousName.map fun previous => "__" ++ previous ++ mode.typeUidEnding) =
            some (stem ++ mode.typeUidEnding) ∧
          (property.previousName.map fun previous => "__" ++ previous ++ otherMode.typeUidEnding) =
            some (stem ++ otherMode.typeUidEnding) := by
    cases property.previousName with
    | none => exact .inl rfl
    | some previous => exact .inr ⟨"__" ++ previous, rfl, rfl⟩
  exact .cons (.renamed _ _) (.cons (.renamed _ _)
    (.cons ⟨rfl, rfl, rfl, rfl, typeUid⟩ .nil))

theorem attributes_respell (property : Property) (storage : StorageType) :
    List.Forall₂ (Attribute.Respells mode otherMode) (property.attributes storage mode)
      (property.attributes storage otherMode) := by
  unfold attributes
  refine List.rel_append ?_ ?_
  · split
    · exact property.referenceAttributes_respell storage
    · exact .cons (.renamed _ _) .nil
  · split
    · exact .cons (.renamed _ _) .nil
    · exact .nil

end Property

namespace Shape

theorem propertyAttributes_agree (shape : Shape) (entity : Entity) (property : Property) :
    Agree (List.Forall₂ (Attribute.Respells mode otherMode))
      (shape.propertyAttributes entity mode property)
      (shape.propertyAttributes entity otherMode property) := by
  unfold propertyAttributes
  cases shape.snapshot.storage property.type with
  | error error => exact .error _
  | ok storage => exact .ok (property.attributes_respell storage)

theorem block_agrees (shape : Shape) (formerName : Option String) :
    Agree (Block.Respells mode otherMode) (shape.block formerName mode)
      (shape.block formerName otherMode) := by
  unfold block
  apply Agree.bind_of_run
  intro entity _
  apply Agree.bind_of_run
  intro identifier _
  have typed : Agree (List.Forall₂ (List.Forall₂ (Attribute.Respells mode otherMode)))
      (entity.usedProperties.mapM (shape.propertyAttributes entity mode))
      (entity.usedProperties.mapM (shape.propertyAttributes entity otherMode)) :=
    Agree.mapM_of_items fun property _ => shape.propertyAttributes_agree entity property
  refine typed.bind ?_
  intro groups otherGroups _ _ respelled
  have attributes := List.rel_append (entity.bookkeeping_respells identifier)
    (List.rel_flatten respelled)
  exact .ok ⟨rfl, attributes⟩

end Shape

namespace Catalog

variable {catalog : Catalog} {config : Config} {current : Version}

theorem entityBlocks_agree (entity : Entity) :
    Agree (List.Forall₂ (Block.Respells mode otherMode))
      (catalog.entityBlocks { config with naming := mode } current entity)
      (catalog.entityBlocks { config with naming := otherMode } current entity) := by
  unfold entityBlocks
  apply Agree.bind_of_run
  intro shapes _
  apply Agree.mapM_of_items
  intro shape _
  exact shape.block_agrees entity.previousName

theorem document_agrees :
    Agree (Document.Respells mode otherMode)
      (catalog.document { config with naming := mode } current)
      (catalog.document { config with naming := otherMode } current) := by
  unfold document
  apply Agree.bind_of_run
  intro _ _
  apply Agree.bind_of_run
  intro snapshot _
  have drawn : Agree (List.Forall₂ (List.Forall₂ (Block.Respells mode otherMode)))
      (snapshot.persisted.mapM (catalog.entityBlocks { config with naming := mode } current))
      (snapshot.persisted.mapM (catalog.entityBlocks { config with naming := otherMode } current)) :=
    Agree.mapM_of_items fun entity _ => catalog.entityBlocks_agree entity
  refine drawn.bind ?_
  intro groups otherGroups _ _ respelled
  exact .ok ⟨rfl, List.rel_flatten respelled⟩

/-- In two naming modes compilation fails with the same error or makes two artifacts of one name. Their
documents have the same header and block by block the same opening element, and then as many attributes,
which correspond in their order: they have the same storage type, optionality, flag and default, and
their texts differ at most in the name and in how the former name ends. -/
theorem compile_respells (catalog : Catalog) (config : Config) (current : Version)
    (mode otherMode : NamingMode) :
    Agree
        (fun artifact other => artifact.name = other.name ∧
          ∃ document otherDocument,
            catalog.document { config with naming := mode } current = .ok document ∧
            catalog.document { config with naming := otherMode } current = .ok otherDocument ∧
            artifact.content = document.render ∧ other.content = otherDocument.render ∧
            document.Respells mode otherMode otherDocument)
        (catalog.compile { config with naming := mode } current)
        (catalog.compile { config with naming := otherMode } current) ∧
      ∀ column other, Attribute.Respells mode otherMode column other →
        Attribute.SameButNames column other := by
  constructor
  · unfold compile
    refine catalog.document_agrees.bind ?_
    intro document otherDocument made otherMade respells
    exact .ok ⟨rfl, document, otherDocument, made, otherMade, rfl, rfl, respells⟩
  · intro column other respells
    exact respells.sameButNames

end Catalog

namespace Cinema

def mainGenre : Property where
  name := "mainGenre"
  type := .toOne "Genre"
  isExtra := true
  previousName := some "kind"

def mainGenreCatalog : Catalog where
  snapshots :=
    [(⟨2, 0, 0⟩,
      { entities := [{ film with identifier := .void, properties := [mainGenre] },
          { genre with isPersisted := false }] })]
  ascending := by unfold Ascending.Sorted; decide

def propertyNames (document : Document) : List (String × Option String) :=
  document.blocks.flatMap fun block =>
    (block.attributes.drop 3).map fun column => (column.name, column.elementId)

theorem mainGenre_in_both_modes :
    ∃ artifact other, mainGenreCatalog.compile { naming := .legacy } ⟨2, 0, 0⟩ = .ok artifact ∧
      mainGenreCatalog.compile { naming := .current } ⟨2, 0, 0⟩ = .ok other ∧
      artifact.name = other.name ∧
      ∃ document otherDocument : Document, artifact.content = document.render ∧
        other.content = otherDocument.render ∧ document.Respells .legacy .current otherDocument ∧
        List.Forall₂
          (fun block otherBlock =>
            List.Forall₂ Attribute.SameButNames block.attributes otherBlock.attributes)
          document.blocks otherDocument.blocks ∧
        propertyNames document =
          [("_mainGenre", some "_kind"), ("__mainGenre", some "__kind"),
            ("__mainGenreTypeUID", some "__kindTypeUID"), ("__mainGenreExtraFlag", none)] ∧
        propertyNames otherDocument =
          [("_main_genre", some "_kind"), ("__main_genre", some "__kind"),
            ("__main_genre_type_uid", some "__kind_type_uid"), ("__main_genre_extra_flag", none)] := by
  obtain ⟨artifact, compiled⟩ :
      ∃ artifact, mainGenreCatalog.compile { naming := .legacy } ⟨2, 0, 0⟩ = .ok artifact := ⟨_, rfl⟩
  obtain ⟨other, otherCompiled⟩ :
      ∃ artifact, mainGenreCatalog.compile { naming := .current } ⟨2, 0, 0⟩ = .ok artifact :=
    ⟨_, rfl⟩
  obtain ⟨agree, texts⟩ := mainGenreCatalog.compile_respells {} ⟨2, 0, 0⟩ .legacy .current
  rw [compiled, otherCompiled] at agree
  cases agree with
  | ok holds =>
      obtain ⟨sameName, document, otherDocument, made, otherMade, text, otherText, respells⟩ := holds
      have sameTexts := respells.blocks.imp fun block otherBlock same =>
        same.attributes.imp fun column otherColumn respelled => texts column otherColumn respelled
      refine ⟨artifact, other, compiled, otherCompiled, sameName, document, otherDocument, text,
        otherText, respells, sameTexts, ?_, ?_⟩
      · obtain rfl := Except.ok.inj made
        decide
      · obtain rfl := Except.ok.inj otherMade
        decide

end Cinema

end SchemaHistory
