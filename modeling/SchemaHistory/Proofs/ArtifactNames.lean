import SchemaHistory.Proofs.Generation
import SchemaHistory.Proofs.Paths
import SchemaHistory.Proofs.Trimming

/-!
Which names of artifacts stay in the directory they are written to. The check of a configuration looks for
slashes and for something that is no blank, and with these a name is that of a child of the directory. Only
the names of one dot and of two dots pass the check and are not: they lead to the directory itself and to
the one above it. A tree of files refuses to write there.
-/

namespace SchemaHistory

set_option autoImplicit false

variable {name directory content : String} {tree after : FileTree}

theorem Config.name_of_check {config : Config} (accepted : config.check = .ok ()) :
    config.artifactName ≠ "" ∧ '/' ∉ config.artifactName.toList ∧
      '\\' ∉ config.artifactName.toList := by
  unfold Config.check at accepted
  simp only at accepted
  split_ifs at accepted with isBlank isPath
  rw [not_or, Text.mem_trim_iff (by decide), Text.mem_trim_iff (by decide)] at isPath
  refine ⟨?_, isPath⟩
  intro isEmpty
  rw [isEmpty] at isBlank
  exact isBlank rfl

namespace FileTree

theorem place_of_join {place : List String} (plain : '/' ∉ name.toList) (notEmpty : name ≠ "")
    (leads : tree.filePlace? (Location.join directory name) = some place) :
    name ≠ "." ∧ name ≠ ".." ∧
      ∃ above, tree.descend tree.home (Location.parts directory) = some above ∧
        place = above ++ [name] := by
  obtain ⟨above, last, named, notIdle, -, way, rfl⟩ := filePlace?_eq_some_iff.1 leads
  rw [Location.endsIdle_join plain] at notIdle
  have notDot : name ≠ "." := by
    rintro rfl
    cases notIdle
  have notDots : name ≠ ".." := by
    rintro rfl
    rw [Location.parts_join_of_plain plain notIdle, List.getLast?_concat] at named
    cases named
  obtain ⟨isNamed, isAbove⟩ := (Location.isChild_join_iff plain notEmpty directory).2 ⟨notDot, notDots⟩
  rw [isNamed, Option.some.injEq, Location.Part.name.injEq] at named
  rw [isAbove] at way
  rw [← named]
  exact ⟨notDot, notDots, above, way, rfl⟩

end FileTree

/-- The path of an accepted name in a directory is that of a child of the directory exactly when the name
is neither one dot nor two. What is written to a tree of files under an accepted name is in the directory,
as nothing is written under these two. -/
theorem Config.child_of_directory_iff {document : String} {config : Config}
    (accepted : Config.parse document = .ok config) (directory : String) :
    (Location.IsChild (Location.join directory config.artifactName) directory config.artifactName ↔
        config.artifactName ≠ "." ∧ config.artifactName ≠ "..") ∧
      ∀ content tree after,
        FileTree.write config.artifactName content directory tree = (.ok (), after) →
          config.artifactName ≠ "." ∧ config.artifactName ≠ ".." ∧
            ∃ above, after.descend after.home (Location.parts directory) = some above ∧
              after.contentAt? (above ++ [config.artifactName]) = some content ∧
              tree.Keeps after [above ++ [config.artifactName]] := by
  have loaded : Config.load (some document) = .ok config := accepted
  have checked := Config.check_of_load loaded
  obtain ⟨notEmpty, plain, -⟩ := Config.name_of_check checked
  refine ⟨Location.isChild_join_iff plain notEmpty directory, ?_⟩
  intro content tree after done
  obtain ⟨place, leads, isContent, keeps⟩ := FileTree.kept_of_write done
  obtain ⟨notDot, notDots, above, way, rfl⟩ := FileTree.place_of_join plain notEmpty leads
  exact ⟨notDot, notDots, above, way, isContent, keeps⟩

namespace Cinema

def dottedName : String := "[model]\nartifact_name = \"..model \"\n"

/-- A name that begins with dots and ends in a blank is that of a child, also of a directory that is written
with a dot and a slash at its end. -/
theorem dottedName_in_directory :
    Config.parse dottedName = .ok { artifactName := "..model " } ∧
      Location.IsChild "out/./..model " "out/./" "..model " ∧
      ∃ after, FileTree.write "..model " "none" "out/./" notes = (.ok (), after) ∧
        after.contentAt? ["out", "..model "] = some "none" ∧
        notes.Keeps after [["out", "..model "]] := by
  have accepted : Config.parse dottedName = .ok { artifactName := "..model " } := rfl
  obtain ⟨child, written⟩ := Config.child_of_directory_iff accepted "out/./"
  obtain ⟨after, done, way⟩ : ∃ after,
      FileTree.write "..model " "none" "out/./" notes = (.ok (), after) ∧
        after.descend after.home (Location.parts "out/./") = some ["out"] := ⟨_, rfl, rfl⟩
  obtain ⟨-, -, above, leads, isContent, keeps⟩ := written "none" notes after done
  obtain rfl := Option.some.inj (way.symm.trans leads)
  exact ⟨accepted, child.2 ⟨by decide, by decide⟩, after, done, isContent, keeps⟩

def dotsAsName : String := "[model]\nartifact_name = \"..\"\n"

/-- Two dots are accepted as a name, and lead out of the directory. -/
theorem dotsAsName_leads_out :
    Config.parse dotsAsName = .ok { artifactName := ".." } ∧
      Location.parts (Location.join "out/model" "..") = [.name "out", .name "model", .parent] ∧
      ¬Location.IsChild (Location.join "out/model" "..") "out/model" ".." := by
  refine ⟨rfl, rfl, ?_⟩
  intro child
  have isParent := child.named
  cases isParent

end Cinema

end SchemaHistory
