import SchemaHistory.Proofs.BlockText

/-!
The text of a compiled document, from its first character to its last: a header that names the version,
the texts of the blocks on lines of their own, in the order of the boundaries, and a footer. The parts
are given here as they are read in a document, apart from the functions that write them.
-/

namespace SchemaHistory

open Markup Traversal

set_option autoImplicit false

namespace Document

def header (version : Version) : String :=
  "<?xml version=\"1.0\" encoding=\"UTF-8\" standalone=\"yes\"?>" ++ "\n" ++ ("<model" ++
    " type=\"com.apple.IDECoreDataModeler.DataModel\"" ++ " documentVersion=\"1.0\"" ++
    " lastSavedToolsVersion=\"14460.32\"" ++ " systemVersion=\"18A391\"" ++
    " minimumToolsVersion=\"Automatic\"" ++ " sourceLanguage=\"Swift\"" ++
    (" userDefinedModelVersionIdentifier=\"" ++ (version.major.toNat.repr ++ "." ++
      version.minor.toNat.repr ++ "." ++ version.patch.toNat.repr) ++ "\"") ++ ">") ++ "\n\n"

def footer : String := "\n\n</model>\n"

theorem render_eq (document : Document) :
    document.render = header document.version ++
      "\n".intercalate (document.blocks.map Block.render) ++ footer := by
  rfl

end Document

def IsElementOf (storeName text : String) : Prop :=
  ∃ inside, text = "    <entity name=\"" ++ storeName ++ "\"" ++ inside ++ "\n    </entity>"

theorem Block.isElementOf_render (block : Block) : IsElementOf block.storeName block.render := by
  let values := pair "representedClassName" block.className ++ pair "syncable" "YES" ++
    pair "codeGenerationType" "class" ++ elementIdPair block.elementId
  have opened : block.opening = "    <entity name=\"" ++ block.storeName ++ "\"" ++ (values ++ ">") :=
    calc block.opening
      _ = "    <entity" ++ " name=\"" ++ block.storeName ++ "\"" ++ (values ++ ">") := by
        unfold opening values pair
        simp only [String.append_assoc]
        rfl
      _ = "    <entity name=\"" ++ block.storeName ++ "\"" ++ (values ++ ">") := rfl
  have closed : block.render =
      "\n".intercalate (block.opening :: block.attributes.map Attribute.render) ++ "\n" ++ closing :=
    String.intercalate_append_of_ne_nil (List.cons_ne_nil _ _) (List.cons_ne_nil _ _)
  unfold IsElementOf
  rw [closed, opened, String.intercalate_cons_append]
  exact ⟨_, String.append_assoc⟩

namespace Catalog

variable {catalog : Catalog} {config : Config} {current : Version}

/-- The text is that of the shape of an entity at a boundary, and names the entity with the components of
the label at the end. -/
def ShowsText (catalog : Catalog) (config : Config) (current : Version) (boundary : Entity × Version)
    (text : String) : Prop :=
  ∃ shapes, catalog.shapes boundary.1 current (catalog.checkpointsFor config) = .ok shapes ∧
    ∃ shape ∈ shapes, shape.label = boundary.2 ∧
      shape.Prints boundary.1.previousName config.naming (.ok text) ∧
      ∃ stem, IsElementOf (stem ++ "_" ++ (boundary.2.major.toNat.repr ++ "_" ++
        boundary.2.minor.toNat.repr ++ "_" ++ boundary.2.patch.toNat.repr)) text

theorem Shows.showsText {boundary : Entity × Version} {block : Block}
    (shows : catalog.Shows config current boundary block) :
    catalog.ShowsText config current boundary block.render := by
  obtain ⟨shapes, resolved, shape, member, isLabel, drawn, stem, named⟩ := shows
  have prints := shape.prints_text boundary.1.previousName config.naming
  have isElement := block.isElementOf_render
  rw [drawn] at prints
  rw [named] at isElement
  exact ⟨shapes, resolved, shape, member, isLabel, prints, stem, isElement⟩

/-- A document holds the blocks of all boundaries in their order, each under a name that ends in its
label, and its text is a header, the texts of these blocks with line breaks between them, and a footer.
When the catalog passes its check and has the current snapshot, compilation fails exactly with the
failure of the first entity that cannot be drawn. -/
theorem compile_follows_boundaries (catalog : Catalog) (config : Config) (current : Version) :
    (∀ artifact, catalog.compile config current = .ok artifact →
      ∃ snapshot groups texts, catalog.snapshot current = .ok snapshot ∧
        artifact =
          { name := config.artifactName
            content := Document.header current ++ "\n".intercalate texts ++ Document.footer } ∧
        List.Forall₂ (catalog.Draws config current) (snapshot.entities.filter (·.isPersisted))
          groups ∧
        List.Forall₂ (catalog.Shows config current) snapshot.boundaries groups.flatten ∧
        texts = groups.flatten.map Block.render ∧
        List.Forall₂ (catalog.ShowsText config current) snapshot.boundaries texts) ∧
      ∀ snapshot error, catalog.check config = .ok () → catalog.snapshot current = .ok snapshot →
        (catalog.compile config current = .error error ↔
          ∃ before entity after,
            snapshot.entities.filter (·.isPersisted) = before ++ entity :: after ∧
            (∀ earlier ∈ before, ∃ blocks, catalog.Draws config current earlier blocks) ∧
            catalog.DrawingFails config current entity error) := by
  constructor
  · intro artifact compiled
    obtain ⟨-, snapshot, groups, found, drawn, rfl⟩ := compile_eq_ok.1 compiled
    have shown := shows_of_draws drawn
    refine ⟨snapshot, groups, groups.flatten.map Block.render, found, ?_, drawn, shown, rfl, ?_⟩
    · rw [Document.render_eq]
    · rw [List.forall₂_map_right_iff]
      exact shown.imp fun _ _ blockShown => blockShown.showsText
  · intro snapshot error sound found
    have foundAt : catalog.snapshotAt current = .ok snapshot := snapshotAt_eq_ok.2 found
    rw [compile_eq_error]
    simp only [sound, foundAt, found, FirstFailure, Snapshot.persisted, entityBlocks_eq_ok,
      entityBlocks_eq_error]
    simp

end Catalog

namespace Cinema

/-- The second version has three blocks. In the third version the shapes of the genre can be drawn,
and the film is the first entity to fail. -/
theorem compilation :
    (∃ artifact, catalog.compile {} ⟨2, 0, 0⟩ = .ok artifact ∧
      ∃ snapshot groups texts, catalog.snapshot ⟨2, 0, 0⟩ = .ok snapshot ∧
        artifact =
          { name := "contents"
            content := Document.header ⟨2, 0, 0⟩ ++ "\n".intercalate texts ++ Document.footer } ∧
        List.Forall₂ (catalog.Draws {} ⟨2, 0, 0⟩) (snapshot.entities.filter (·.isPersisted))
          groups ∧
        List.Forall₂ (catalog.Shows {} ⟨2, 0, 0⟩) snapshot.boundaries groups.flatten ∧
        texts = groups.flatten.map Block.render ∧
        List.Forall₂ (catalog.ShowsText {} ⟨2, 0, 0⟩) snapshot.boundaries texts) ∧
      ∃ snapshot, catalog.check {} = .ok () ∧ catalog.snapshot ⟨3, 0, 0⟩ = .ok snapshot ∧
        ∃ before entity after,
          snapshot.entities.filter (·.isPersisted) = before ++ entity :: after ∧
          (∀ earlier ∈ before, ∃ blocks, catalog.Draws {} ⟨3, 0, 0⟩ earlier blocks) ∧
          catalog.DrawingFails {} ⟨3, 0, 0⟩ entity
            (.property "Film" "studio" ⟨2, 0, 0⟩ (.lookup (.unknownEntity "Studio"))) :=
  ⟨⟨_, rfl, (catalog.compile_follows_boundaries {} ⟨2, 0, 0⟩).1 _ rfl⟩,
    ⟨_, rfl, rfl, ((catalog.compile_follows_boundaries {} ⟨3, 0, 0⟩).2 _ _ rfl rfl).1 rfl⟩⟩

end Cinema

end SchemaHistory
