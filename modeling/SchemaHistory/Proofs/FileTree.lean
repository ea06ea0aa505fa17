import Mathlib.Tactic.SplitIfs
import SchemaHistory.Output.FileTree

/-!
What a write changes in a tree of files. All directories stay, and the file at the place that is written
is the only one with another content; a write that fails has made some directories at most. Where
directories stay, a path that leads to the place of a file goes on to lead there.
-/

namespace SchemaHistory.FileTree

set_option autoImplicit false

variable {tree middle after : FileTree} {place other target : List String} {path content : String}

def contentAt? (tree : FileTree) (place : List String) : Option String :=
  match tree.entry? place with
  | some (.file content) => some content
  | _ => none

theorem file?_eq_contentAt? (tree : FileTree) (path : String) :
    tree.file? path = (tree.filePlace? path).bind tree.contentAt? := rfl

theorem contentAt?_of_entry? (same : after.entry? place = tree.entry? place) :
    after.contentAt? place = tree.contentAt? place := by
  unfold contentAt?
  rw [same]

theorem key_ne_key (different : other ≠ place) : key other ≠ key place := by
  intro same
  exact different (congrArg Prod.snd same)

theorem lookup_filter_ne {κ α : Type} [BEq κ] [LawfulBEq κ] {key wanted : κ} (different : wanted ≠ key)
    (entries : List (κ × α)) :
    (entries.filter (·.1 != key)).lookup wanted = entries.lookup wanted := by
  induction entries with
  | nil => rfl
  | cons entry entries ih =>
      obtain ⟨stored, value⟩ := entry
      by_cases isKey : stored = key
      · have notWanted : (wanted == key) = false := by simpa using different
        simpa [isKey, List.lookup_cons, notWanted] using ih
      · simp [isKey, List.lookup_cons, ih]

theorem entry?_set_own (entry : Entry) (notDirectory : tree.entry? place ≠ some .directory) :
    entry? (tree.set place entry) place = some entry := by
  have notHome : ¬place.isPrefixOf tree.home = true := by
    intro above
    apply notDirectory
    unfold entry?
    rw [if_pos above]
  unfold entry? set
  rw [if_neg notHome, List.lookup_cons_self]

theorem entry?_set_other (entry : Entry) (different : other ≠ place) :
    entry? (tree.set place entry) other = tree.entry? other := by
  have otherKey := key_ne_key different
  have notFirst : (key other == key place) = false := by simpa using otherKey
  unfold entry? set
  rw [List.lookup_cons, notFirst, lookup_filter_ne otherKey]

/-- All directories are still there, and no file has changed but at the places that were written. -/
structure Keeps (tree after : FileTree) (written : List (List String)) : Prop where
  home : after.home = tree.home
  directories : ∀ place, tree.entry? place = some .directory → after.entry? place = some .directory
  files : ∀ place, place ∉ written → after.contentAt? place = tree.contentAt? place

theorem Keeps.refl (tree : FileTree) : tree.Keeps tree [] :=
  ⟨rfl, fun _ isDirectory => isDirectory, fun _ _ => rfl⟩

theorem Keeps.trans {written further : List (List String)} (first : tree.Keeps middle written)
    (second : middle.Keeps after further) : tree.Keeps after (written ++ further) where
  home := second.home.trans first.home
  directories place isDirectory := second.directories place (first.directories place isDirectory)
  files place unwritten := by
    rw [List.mem_append, not_or] at unwritten
    rw [second.files place unwritten.2, first.files place unwritten.1]

theorem keeps_set_directory (free : tree.entry? place = none) :
    tree.Keeps (tree.set place .directory) [] where
  home := rfl
  directories other isDirectory := by
    by_cases same : other = place
    · rw [same, free] at isDirectory
      cases isDirectory
    · rw [entry?_set_other .directory same]
      exact isDirectory
  files other _ := by
    by_cases same : other = place
    · have made : entry? (tree.set place .directory) place = some .directory :=
        entry?_set_own .directory (by simp [free])
      unfold contentAt?
      rw [same, made, free]
    · exact contentAt?_of_entry? (entry?_set_other .directory same)

theorem keeps_set_file (notDirectory : tree.entry? place ≠ some .directory) :
    tree.Keeps (tree.set place (.file content)) [place] where
  home := rfl
  directories other isDirectory := by
    have different : other ≠ place := by
      intro same
      rw [same] at isDirectory
      exact notDirectory isDirectory
    rw [entry?_set_other (.file content) different]
    exact isDirectory
  files other unwritten := by
    have different : other ≠ place := by simpa using unwritten
    exact contentAt?_of_entry? (entry?_set_other (.file content) different)

theorem contentAt?_set_file (notDirectory : tree.entry? place ≠ some .directory) :
    (tree.set place (.file content)).contentAt? place = some content := by
  unfold contentAt?
  rw [entry?_set_own (.file content) notDirectory]

theorem keeps_makeWay (tree : FileTree) (place : List String) (parts : List Location.Part) :
    tree.Keeps (tree.makeWay place parts).2 [] := by
  induction parts generalizing tree place with
  | nil => exact .refl tree
  | cons part rest ih =>
      cases part with
      | root => exact ih tree []
      | here => exact ih tree place
      | parent => exact ih tree place.dropLast
      | name text =>
          simp only [makeWay]
          cases entry : tree.entry? (place ++ [text]) with
          | none =>
              simp only
              split
              · exact .refl tree
              · exact (keeps_set_directory entry).trans (ih _ (place ++ [text]))
          | some found =>
              cases found with
              | directory => exact ih tree (place ++ [text])
              | file content => exact .refl tree

theorem keeps_makeDirectory (tree : FileTree) (path : String) :
    tree.Keeps (tree.makeDirectory path).2 [] := by
  simp only [makeDirectory]
  split_ifs
  · exact .refl tree
  · exact tree.keeps_makeWay tree.home _
  · exact tree.keeps_makeWay tree.home _

variable {written : List (List String)}

theorem Keeps.descend (keeps : tree.Keeps after written) {parts : List Location.Part}
    (leads : tree.descend place parts = some target) : after.descend place parts = some target := by
  induction parts generalizing place with
  | nil => exact leads
  | cons part rest ih =>
      cases part with
      | root => exact ih leads
      | here => exact ih leads
      | parent => exact ih leads
      | name text =>
          simp only [FileTree.descend] at leads ⊢
          split_ifs at leads with isDirectory
          rw [if_pos (keeps.directories _ isDirectory)]
          exact ih leads

theorem Keeps.isPossible (keeps : tree.Keeps after written) (path : String) :
    after.isPossible path = tree.isPossible path := by
  unfold FileTree.isPossible rooted
  rw [keeps.home]

theorem filePlace?_eq_some_iff :
    tree.filePlace? path = some place ↔
      ∃ above name, (Location.parts path).getLast? = some (.name name) ∧
        Location.endsIdle path = false ∧ tree.isPossible path = true ∧
        tree.descend tree.home (Location.parts path).dropLast = some above ∧ place = above ++ [name] := by
  simp only [FileTree.filePlace?]
  constructor
  · intro leads
    split at leads
    · rename_i name named
      split_ifs at leads with impossible
      obtain ⟨above, way, rfl⟩ := Option.map_eq_some_iff.1 leads
      rw [Bool.or_eq_true, not_or, Bool.not_eq_true, Bool.not_eq_true, Bool.not_eq_false'] at impossible
      exact ⟨above, name, named, impossible.1, impossible.2, way, rfl⟩
    · cases leads
  · rintro ⟨above, name, named, notIdle, possible, way, rfl⟩
    simp [named, notIdle, possible, way]

theorem Keeps.filePlace? (keeps : tree.Keeps after written)
    (leads : tree.filePlace? path = some place) : after.filePlace? path = some place := by
  obtain ⟨above, name, named, notIdle, possible, way, rfl⟩ := filePlace?_eq_some_iff.1 leads
  refine filePlace?_eq_some_iff.2 ⟨above, name, named, notIdle, ?_, ?_, rfl⟩
  · rw [keeps.isPossible, possible]
  · rw [keeps.home]
    exact keeps.descend way

theorem kept_of_store? (stored : tree.store? path content = some after) :
    ∃ place, tree.filePlace? path = some place ∧ after.contentAt? place = some content ∧
      tree.Keeps after [place] := by
  cases leads : tree.filePlace? path with
  | none => simp [store?, leads] at stored
  | some place =>
      simp only [store?, leads, Option.bind_eq_bind, Option.bind_some] at stored
      split_ifs at stored with refused
      rw [not_or] at refused
      rw [← Option.some.inj stored]
      exact ⟨place, rfl, contentAt?_set_file refused.1, keeps_set_file refused.1⟩

variable {name directory : String} {error : SinkError}

/-- After a write the path of the name in the directory leads to the file with the content, and this
file is all that has changed. -/
theorem kept_of_write (done : write name content directory tree = (.ok (), after)) :
    ∃ place, after.filePlace? (Location.join directory name) = some place ∧
      after.contentAt? place = some content ∧ tree.Keeps after [place] := by
  have kept := tree.keeps_makeDirectory directory
  unfold write at done
  split at done
  · cases done
  · rename_i made isMade
    rw [isMade] at kept
    simp only at done
    split at done
    · cases done
    · rename_i stored isStored
      obtain ⟨place, leads, isContent, keeps⟩ := kept_of_store? isStored
      obtain rfl := congrArg Prod.snd done
      exact ⟨place, keeps.filePlace? leads, isContent, kept.trans keeps⟩

theorem kept_of_write_error (failed : write name content directory tree = (.error error, after)) :
    (error.path = directory ∨ error.path = Location.join directory name) ∧
      tree.Keeps after [] := by
  have kept := tree.keeps_makeDirectory directory
  unfold write at failed
  split at failed
  · rename_i made notMade
    rw [notMade] at kept
    obtain ⟨isError, rfl⟩ := Prod.mk.inj failed
    rw [← Except.error.inj isError]
    exact ⟨Or.inl rfl, kept⟩
  · rename_i made isMade
    rw [isMade] at kept
    simp only at failed
    split at failed
    · obtain ⟨isError, rfl⟩ := Prod.mk.inj failed
      rw [← Except.error.inj isError]
      exact ⟨Or.inr rfl, kept⟩
    · cases failed

end SchemaHistory.FileTree
