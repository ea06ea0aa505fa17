import SchemaHistory.Output.Recorder
import SchemaHistory.Proofs.FileTree
import SchemaHistory.Proofs.Paths

/-!
How far a recorder stands in for a tree of files. Both get the same writes, and both have a file where one
of the writes has put it. They differ in what counts as the same path: the recorder compares paths part by
part as they are spelled, and the tree goes where they lead. So the tree has a file at a path of the record
if the path is one that a file can have, and the record has the file of a tree if it was written under a
path that is spelled like the one that is asked for.
-/

namespace SchemaHistory

set_option autoImplicit false

structure Write where
  name : String
  content : String
  directory : String

def Write.path (write : Write) : String := Location.join write.directory write.name

/-- The sink accepts the writes one after another, and is then in the last of the states. -/
inductive Sink.Replays {σ : Type} (sink : Sink σ) : List Write → σ → σ → Prop where
  | nil (state : σ) : Replays sink [] state state
  | cons {write : Write} {writes : List Write} {state next last : σ}
      (accepted : sink.write write.name write.content write.directory state = (.ok (), next))
      (rest : Replays sink writes next last) : Replays sink (write :: writes) state last

variable {writes : List Write} {path other : String}

namespace Location

/-- Two paths begin in the same way and have no two dots. -/
structure SpelledAlike (left right : String) : Prop where
  start : start left = start right
  left : .parent ∉ steps left
  right : .parent ∉ steps right

theorem isAbsolute_iff_start : isAbsolute path = true ↔ start path = [.root] := by
  unfold start
  split_ifs with absolute <;> simp [absolute]

theorem names_of_steps (descends : .parent ∉ steps path) :
    ∃ names : List String, steps path = names.map .name := by
  refine ⟨(pieces path).filter (!isIdle ·), List.map_congr_left fun piece member => if_neg ?_⟩
  intro isParent
  apply descends
  exact List.mem_map.2 ⟨piece, member, if_pos isParent⟩

end Location

namespace Recorder

variable {recorder last : Recorder} {file : WrittenFile}

theorem files_of_replays (recorded : sink.Replays writes recorder last) :
    last.files = recorder.files ++ writes.map fun write => ⟨write.path, write.content⟩ := by
  induction recorded with
  | nil => simp
  | cons accepted rest ih =>
      obtain ⟨-, rfl⟩ := Prod.mk.inj accepted
      rw [ih, Recorder.write, List.append_assoc]
      rfl

theorem write_of_file? (recorded : sink.Replays writes {} recorder)
    (found : recorder.file? path = some file) :
    ∃ write ∈ writes, Location.parts write.path = Location.parts path ∧
      file.content = write.content := by
  rw [file?, files_of_replays recorded, List.nil_append] at found
  obtain ⟨write, member, rfl⟩ := List.mem_map.1 (List.mem_of_find?_eq_some found)
  have same := List.find?_some found
  exact ⟨write, member, of_decide_eq_true same, rfl⟩

theorem file?_isSome_iff (recorded : sink.Replays writes {} recorder) :
    (recorder.file? path).isSome ↔
      ∃ write ∈ writes, Location.parts write.path = Location.parts path := by
  rw [file?, files_of_replays recorded, List.nil_append, List.find?_isSome]
  constructor
  · intro holds
    obtain ⟨file, member, same⟩ := holds
    obtain ⟨write, isWrite, rfl⟩ := List.mem_map.1 member
    exact ⟨write, isWrite, of_decide_eq_true same⟩
  · intro written
    obtain ⟨write, member, same⟩ := written
    exact ⟨⟨write.path, write.content⟩, List.mem_map_of_mem member, decide_eq_true same⟩

end Recorder

namespace FileTree

variable {tree after : FileTree} {place : List String} {content : String}

/-- What the last of the writes that lead to a place has put there. -/
def latest? (tree : FileTree) (writes : List Write) (place : List String) : Option String :=
  (writes.filter fun write => tree.filePlace? write.path = some place).getLast?.map (·.content)

theorem latest?_cons (write : Write) (writes : List Write) (place : List String) :
    tree.latest? (write :: writes) place = (tree.latest? writes place).or
      (if tree.filePlace? write.path = some place then some write.content else none) := by
  unfold latest?
  split_ifs with leads
  · rw [List.filter_cons_of_pos (by simpa using leads), List.getLast?_cons]
    cases (writes.filter fun write => tree.filePlace? write.path = some place).getLast? <;> rfl
  · rw [List.filter_cons_of_neg (by simpa using leads), Option.or_none]

theorem latest?_isSome {write : Write} (member : write ∈ writes)
    (leads : tree.filePlace? write.path = some place) : (tree.latest? writes place).isSome := by
  unfold latest?
  rw [Option.isSome_map, Option.isSome_iff_ne_none, ne_eq, List.getLast?_eq_none_iff]
  exact List.ne_nil_of_mem (List.mem_filter.2 ⟨member, decide_eq_true leads⟩)

theorem keeps_of_replays (stored : sink.Replays writes tree after) :
    ∃ written, tree.Keeps after written := by
  induction stored with
  | nil => exact ⟨[], .refl _⟩
  | cons accepted rest ih =>
      obtain ⟨place, -, -, keeps⟩ := kept_of_write accepted
      obtain ⟨written, laterKeeps⟩ := ih
      exact ⟨[place] ++ written, keeps.trans laterKeeps⟩

theorem filePlace?_of_replays (stored : sink.Replays writes tree after) {write : Write}
    (member : write ∈ writes) : ∃ place, after.filePlace? write.path = some place := by
  induction stored with
  | nil => simp at member
  | cons accepted rest ih =>
      rcases List.mem_cons.1 member with rfl | later
      · obtain ⟨place, leads, -, -⟩ := kept_of_write accepted
        obtain ⟨written, keeps⟩ := keeps_of_replays rest
        exact ⟨place, keeps.filePlace? leads⟩
      · exact ih later

/-- The last write that leads to a place decides on what is there. -/
theorem contentAt?_of_replays (stored : sink.Replays writes tree after) (place : List String) :
    after.contentAt? place = (after.latest? writes place).or (tree.contentAt? place) := by
  induction stored with
  | nil => rfl
  | @cons write writes tree next after accepted rest ih =>
      obtain ⟨target, leads, isContent, keeps⟩ := kept_of_write accepted
      obtain ⟨written, laterKeeps⟩ := keeps_of_replays rest
      -- Where the path leads to right after the write, it leads to at the end.
      have leadsAfter : after.filePlace? write.path = some target := laterKeeps.filePlace? leads
      rw [ih, latest?_cons, leadsAfter, Option.or_assoc]
      by_cases here : target = place
      · rw [← here, if_pos rfl, isContent]
        rfl
      · have elsewhere : ¬some target = some place := by simpa using here
        have unwritten : place ∉ [target] := by simpa [eq_comm] using here
        rw [if_neg elsewhere, keeps.files place unwritten]
        rfl

/-- Two paths lead to one place of a file. -/
def Meet (tree : FileTree) (left right : String) : Prop :=
  ∃ place, tree.filePlace? left = some place ∧ tree.filePlace? right = some place

theorem file?_of_replays {home : List String} (stored : sink.Replays writes { home } tree) (path : String) :
    tree.file? path = (tree.filePlace? path).bind (tree.latest? writes) := by
  rw [file?_eq_contentAt?]
  congr 1
  funext place
  have nothingBefore : contentAt? { home } place = none := by
    unfold contentAt? entry?
    split_ifs <;> rfl
  rw [contentAt?_of_replays stored, nothingBefore, Option.or_none]

theorem file?_of_write {home : List String} (stored : sink.Replays writes { home } tree) {write : Write}
    (member : write ∈ writes) (meet : tree.Meet write.path path) : (tree.file? path).isSome := by
  obtain ⟨place, written, asked⟩ := meet
  rw [file?_of_replays stored, asked]
  exact latest?_isSome member written

theorem possible_of_file? (found : (tree.file? path).isSome) :
    Location.endsIdle path = false ∧ tree.isPossible path = true := by
  obtain ⟨content, isContent⟩ := Option.isSome_iff_exists.1 found
  rw [file?_eq_contentAt?] at isContent
  obtain ⟨place, leads, -⟩ := Option.bind_eq_some_iff.1 isContent
  obtain ⟨-, -, -, notIdle, possible, -, -⟩ := filePlace?_eq_some_iff.1 leads
  exact ⟨notIdle, possible⟩

theorem filePlace?_of_parts (same : Location.parts other = Location.parts path)
    (leads : tree.filePlace? other = some place) (notIdle : Location.endsIdle path = false)
    (possible : tree.isPossible path = true) : tree.filePlace? path = some place := by
  obtain ⟨above, name, named, -, -, way, rfl⟩ := filePlace?_eq_some_iff.1 leads
  rw [same] at named way
  exact filePlace?_eq_some_iff.2 ⟨above, name, named, notIdle, possible, way, rfl⟩

theorem descend_names {names target : List String}
    (leads : tree.descend place (names.map .name) = some target) : target = place ++ names := by
  induction names generalizing place with
  | nil =>
      obtain rfl := Option.some.inj leads
      exact (List.append_nil place).symm
  | cons name rest ih =>
      rw [List.map_cons, descend] at leads
      split_ifs at leads
      rw [ih leads, List.append_assoc, List.singleton_append]

theorem descend_start (tree : FileTree) (path : String) (rest : List Location.Part) :
    tree.descend tree.home (Location.start path ++ rest) =
      tree.descend (if Location.isAbsolute path then [] else tree.home) rest := by
  unfold Location.start
  split_ifs <;> rfl

theorem place_of_names {names : List String} (spelled : Location.steps path = names.map .name)
    (leads : tree.filePlace? path = some place) :
    place = (if Location.isAbsolute path then [] else tree.home) ++ names := by
  obtain ⟨above, name, named, -, -, way, rfl⟩ := filePlace?_eq_some_iff.1 leads
  rw [Location.parts_eq, spelled] at named way
  rcases List.eq_nil_or_concat' names with rfl | ⟨init, last, rfl⟩
  · rw [Location.start] at named
    split_ifs at named <;> cases named
  · rw [List.map_append, List.map_singleton, ← List.append_assoc] at named way
    rw [List.getLast?_concat, Option.some.injEq, Location.Part.name.injEq] at named
    rw [List.dropLast_concat, descend_start] at way
    rw [descend_names way, named, List.append_assoc]

theorem parts_of_meet (meet : tree.Meet path other) (alike : Location.SpelledAlike path other) :
    Location.parts path = Location.parts other := by
  obtain ⟨place, leads, otherLeads⟩ := meet
  obtain ⟨names, spelled⟩ := Location.names_of_steps alike.left
  obtain ⟨otherNames, otherSpelled⟩ := Location.names_of_steps alike.right
  have absolute : Location.isAbsolute path = Location.isAbsolute other := by
    rw [Bool.eq_iff_iff, Location.isAbsolute_iff_start, Location.isAbsolute_iff_start, alike.start]
  have same := (place_of_names spelled leads).symm.trans (place_of_names otherSpelled otherLeads)
  rw [absolute, List.append_cancel_left_eq] at same
  rw [Location.parts_eq, Location.parts_eq, spelled, otherSpelled, alike.start, same]

end FileTree

section Agreement

variable {home : List String} {recorder : Recorder} {tree : FileTree} {file : WrittenFile}

/-- A file of the record has the content of a write that leads to it in the tree. -/
theorem meet_of_recorded (recorded : Recorder.sink.Replays writes {} recorder)
    (stored : FileTree.sink.Replays writes { home } tree) (found : recorder.file? path = some file)
    (reachable : Location.endsIdle path = false ∧ tree.isPossible path = true) :
    ∃ write ∈ writes, tree.Meet write.path path ∧ file.content = write.content := by
  obtain ⟨write, member, same, isContent⟩ := Recorder.write_of_file? recorded found
  obtain ⟨place, leads⟩ := FileTree.filePlace?_of_replays stored member
  have alsoLeads := FileTree.filePlace?_of_parts same leads reachable.1 reachable.2
  exact ⟨write, member, ⟨place, leads, alsoLeads⟩, isContent⟩

/-- A recorder and a tree after the same writes. The tree has the files of the record, but at paths that no
file can have, and what it has at a path is from the last write that leads there. The record has a file
where a write has the parts of the path, two dots among them; a write that leads to the place of the path
and is spelled alike has them. Where all writes that lead there have the content of the tree it is the
content of the record. -/
theorem sinks_agree (recorded : Recorder.sink.Replays writes {} recorder)
    (stored : FileTree.sink.Replays writes { home } tree) (path : String) :
    (∀ file, recorder.file? path = some file →
        ((tree.file? path).isSome ↔ Location.endsIdle path = false ∧ tree.isPossible path = true)) ∧
      tree.file? path = (tree.filePlace? path).bind (tree.latest? writes) ∧
      ((recorder.file? path).isSome ↔
        ∃ write ∈ writes, Location.parts write.path = Location.parts path) ∧
      (∀ write ∈ writes, tree.Meet write.path path → Location.SpelledAlike write.path path →
        (recorder.file? path).isSome) ∧
      ∀ file content, recorder.file? path = some file → tree.file? path = some content →
        (∀ write ∈ writes, tree.Meet write.path path → write.content = content) →
          file.content = content := by
  refine ⟨?_, FileTree.file?_of_replays stored path, Recorder.file?_isSome_iff recorded, ?_, ?_⟩
  · intro file found
    refine ⟨FileTree.possible_of_file?, fun reachable => ?_⟩
    obtain ⟨write, member, meet, -⟩ := meet_of_recorded recorded stored found reachable
    exact FileTree.file?_of_write stored member meet
  · intro write member meet alike
    exact (Recorder.file?_isSome_iff recorded).2 ⟨write, member, FileTree.parts_of_meet meet alike⟩
  · intro file content found kept same
    have reachable := FileTree.possible_of_file? (Option.isSome_of_eq_some kept)
    obtain ⟨write, member, meet, isContent⟩ := meet_of_recorded recorded stored found reachable
    rw [isContent, same write member meet]

end Agreement

namespace Cinema

/-- One artifact twice, under two spellings of its directory, and notes by a way that goes up. -/
def repeated : List Write :=
  [⟨"contents", "<model/>", "out//model"⟩, ⟨"notes", "none", "out/../out"⟩,
    ⟨"contents", "<model/>", "./out/model/"⟩]

/-- The artifact is in the record and in the tree, also under a third spelling, and so are the notes by the
way that goes up. -/
theorem repeated_agree :
    ∃ recorder tree file, Recorder.sink.Replays repeated {} recorder ∧
      FileTree.sink.Replays repeated { home := ["work"] } tree ∧
      recorder.file? "out/./model/contents" = some file ∧
      tree.file? "out/./model/contents" = some file.content ∧
      (recorder.file? "out/..//out/notes").isSome ∧ (tree.file? "out/..//out/notes").isSome := by
  obtain ⟨recorder, recorded⟩ : ∃ recorder, Recorder.sink.Replays repeated {} recorder :=
    ⟨_, .cons rfl (.cons rfl (.cons rfl (.nil _)))⟩
  obtain ⟨tree, stored, isContent, asked, first, notes, possible⟩ : ∃ tree,
      FileTree.sink.Replays repeated { home := ["work"] } tree ∧
        tree.file? "out/./model/contents" = some "<model/>" ∧
        tree.filePlace? "out/./model/contents" = some ["work", "out", "model", "contents"] ∧
        tree.filePlace? "out//model/contents" = some ["work", "out", "model", "contents"] ∧
        tree.filePlace? "out/../out/notes" = some ["work", "out", "notes"] ∧
        tree.isPossible "out/..//out/notes" = true :=
    ⟨_, .cons rfl (.cons rfl (.cons rfl (.nil _))), rfl, rfl, rfl, rfl, rfl⟩
  obtain ⟨-, -, -, recordedAlike, sameContent⟩ := sinks_agree recorded stored "out/./model/contents"
  have alike : Location.SpelledAlike "out//model/contents" "out/./model/contents" :=
    ⟨rfl, by decide, by decide⟩
  obtain ⟨file, found⟩ := Option.isSome_iff_exists.1
    (recordedAlike ⟨"contents", "<model/>", "out//model"⟩ (by simp [repeated]) ⟨_, first, asked⟩ alike)
  have allSame : ∀ write ∈ repeated, tree.Meet write.path "out/./model/contents" →
      write.content = "<model/>" := by
    intro write member ⟨place, leads, alsoLeads⟩
    simp only [repeated, List.mem_cons, List.not_mem_nil, or_false] at member
    rcases member with rfl | rfl | rfl
    · rfl
    · have isNotes := leads.symm.trans notes
      rw [← alsoLeads, asked] at isNotes
      simp at isNotes
    · rfl
  rw [← sameContent file _ found isContent allSame] at isContent
  obtain ⟨stays, -, recordedWhere, -⟩ := sinks_agree recorded stored "out/..//out/notes"
  have notesRecorded : (recorder.file? "out/..//out/notes").isSome :=
    recordedWhere.2 ⟨⟨"notes", "none", "out/../out"⟩, by simp [repeated], rfl⟩
  obtain ⟨notesFile, isNotesFile⟩ := Option.isSome_iff_exists.1 notesRecorded
  have notesStored := (stays notesFile isNotesFile).2 ⟨rfl, possible⟩
  exact ⟨recorder, tree, file, recorded, stored, found, isContent, notesRecorded, notesStored⟩

def rewritten : List Write := [⟨"notes", "early", "out"⟩, ⟨"notes", "late", "out"⟩]

/-- The tree has the late notes, and also under a path with two dots. The record has nothing there, has the
notes under a path that ends in a slash, and has the early ones. -/
theorem rewritten_disagree :
    ∃ recorder tree, Recorder.sink.Replays rewritten {} recorder ∧
      FileTree.sink.Replays rewritten {} tree ∧
      (recorder.file? "out/../out/notes" = none ∧ tree.file? "out/../out/notes" = some "late") ∧
      (recorder.file? "./out/notes" = none ∧ tree.file? "./out/notes" = some "late") ∧
      (recorder.file? "out/notes/" = some ⟨"out/notes", "early"⟩ ∧ tree.file? "out/notes/" = none) ∧
      recorder.file? "out/notes" = some ⟨"out/notes", "early"⟩ ∧
      tree.file? "out/notes" = some "late" :=
  ⟨_, _, .cons rfl (.cons rfl (.nil _)), .cons rfl (.cons rfl (.nil _)), ⟨rfl, rfl⟩, ⟨rfl, rfl⟩,
    ⟨rfl, rfl⟩, rfl, rfl⟩

end Cinema

end SchemaHistory
