import SchemaHistory.Generate
import SchemaHistory.Proofs.Compilation
import SchemaHistory.Proofs.FileTree

/-!
Generation is all or nothing. The configuration is loaded, it names a version, and the catalog is compiled
at this version; the first of these that fails is the answer, and then nothing is touched. Otherwise there
is one artifact, and a sink gets it once: a recorder has one more file, and of a tree one file is written.
-/

namespace SchemaHistory

set_option autoImplicit false

theorem Config.check_of_load {configFile : Option String} {config : Config}
    (loaded : Config.load configFile = .ok config) : config.check = .ok () := by
  cases configFile with
  | none => cases loaded
  | some document =>
      simp only [Config.load, Config.parse] at loaded
      split at loaded
      · cases loaded
      · rename_i decoded _
        cases checked : decoded.check with
        | error error => simp [checked, Except.map] at loaded
        | ok =>
            simp only [checked, Except.map, Except.ok.injEq] at loaded
            rw [← loaded, checked]

namespace Catalog

/-- The configuration is loaded and names a version, and at this version the catalog compiles to the
artifact. -/
def Prepares (catalog : Catalog) (configFile : Option String) (artifact : Artifact) : Prop :=
  ∃ config current, Config.load configFile = .ok config ∧ config.check = .ok () ∧
    config.currentVersion = some current ∧ catalog.compile config current = .ok artifact

/-- There is no artifact, and this is the first reason for it. -/
inductive Refuses (catalog : Catalog) (configFile : Option String) : GenerateError → Prop where
  | config {error : ConfigError} (notLoaded : Config.load configFile = .error error) :
      Refuses catalog configFile (.config error)
  | version {config : Config} (loaded : Config.load configFile = .ok config)
      (unnamed : config.currentVersion = none) :
      Refuses catalog configFile .missingCurrentVersion
  | compile {config : Config} {current : Version} {error : CompileError}
      (loaded : Config.load configFile = .ok config) (named : config.currentVersion = some current)
      (notCompiled : catalog.compile config current = .error error) :
      Refuses catalog configFile (.compile error)

variable {catalog : Catalog} {config : Config} {current : Version} {configFile : Option String}
  {directory : String} {artifact : Artifact} {tree after : FileTree}

theorem refuses_or_prepares (catalog : Catalog) (configFile : Option String) :
    (∃ error, catalog.Refuses configFile error) ∨ ∃ artifact, catalog.Prepares configFile artifact := by
  cases loaded : Config.load configFile with
  | error error => exact Or.inl ⟨_, .config loaded⟩
  | ok config =>
      cases named : config.currentVersion with
      | none => exact Or.inl ⟨_, .version loaded named⟩
      | some current =>
          cases compiled : catalog.compile config current with
          | error error => exact Or.inl ⟨_, .compile loaded named compiled⟩
          | ok artifact =>
              exact Or.inr ⟨artifact, config, current, loaded, Config.check_of_load loaded, named,
                compiled⟩

section Delivery

variable {σ : Type} {sink : Sink σ} {state later : σ}

theorem deliver_of_error {error : CompileError}
    (notCompiled : catalog.compile config current = .error error) :
    catalog.deliver config current directory sink state = (.error (.compile error), state) := by
  unfold deliver
  rw [notCompiled]

theorem deliver_of_written (compiled : catalog.compile config current = .ok artifact)
    (written : sink.write artifact.name artifact.content directory state = (.ok (), later)) :
    catalog.deliver config current directory sink state = (.ok artifact, later) := by
  simp only [deliver, compiled, written]

theorem deliver_of_unwritten {error : SinkError}
    (compiled : catalog.compile config current = .ok artifact)
    (unwritten : sink.write artifact.name artifact.content directory state = (.error error, later)) :
    catalog.deliver config current directory sink state = (.error (.sink error), later) := by
  simp only [deliver, compiled, unwritten]

end Delivery

section Recording

variable {recorder recorded : Recorder}

theorem deliver_recorded (compiled : catalog.compile config current = .ok artifact) :
    catalog.deliver config current directory Recorder.sink recorder =
      (.ok artifact, recorder.write artifact.name artifact.content directory) :=
  deliver_of_written compiled rfl

theorem recorded_iff_files {name content : String} :
    recorder.write name content directory = recorded ↔
      recorded.files = recorder.files ++ [{ path := Location.join directory name, content }] := by
  cases recorded
  simp [Recorder.write, eq_comm]

theorem deliver_recorded_iff :
    catalog.deliver config current directory Recorder.sink recorder = (.ok artifact, recorded) ↔
      catalog.compile config current = .ok artifact ∧
        recorded.files = recorder.files ++
          [{ path := Location.join directory artifact.name, content := artifact.content }] := by
  cases compiled : catalog.compile config current with
  | error failure =>
      rw [deliver_of_error compiled]
      simp
  | ok prepared =>
      rw [deliver_recorded compiled, Prod.mk.injEq, Except.ok.injEq, Except.ok.injEq]
      apply and_congr_right
      intro same
      rw [same, recorded_iff_files]

theorem deliver_unrecorded_iff {error : GenerateError} :
    catalog.deliver config current directory Recorder.sink recorder = (.error error, recorded) ↔
      ∃ failure, catalog.compile config current = .error failure ∧ error = .compile failure ∧
        recorded = recorder := by
  cases compiled : catalog.compile config current with
  | error failure =>
      rw [deliver_of_error compiled]
      simp [eq_comm]
  | ok prepared =>
      rw [deliver_recorded compiled]
      simp

end Recording

theorem generate_of_refuses {error : GenerateError} (refuses : catalog.Refuses configFile error) :
    catalog.generate configFile directory tree = (.error error, tree) := by
  cases refuses with
  | config notLoaded => simp only [generate, notLoaded]
  | version loaded unnamed => simp only [generate, loaded, unnamed]
  | compile loaded named notCompiled =>
      simp only [generate, loaded, named]
      exact deliver_of_error notCompiled

theorem generate_of_prepares (prepares : catalog.Prepares configFile artifact) :
    (∃ after, FileTree.write artifact.name artifact.content directory tree = (.ok (), after) ∧
        catalog.generate configFile directory tree = (.ok artifact, after)) ∨
      ∃ error after,
        FileTree.write artifact.name artifact.content directory tree = (.error error, after) ∧
        catalog.generate configFile directory tree = (.error (.sink error), after) := by
  rcases prepares with ⟨config, current, loaded, -, named, compiled⟩
  have delivered : catalog.generate configFile directory tree =
      catalog.deliver config current directory FileTree.sink tree := by
    simp only [generate, loaded, named]
  cases written : FileTree.write artifact.name artifact.content directory tree with
  | mk result after =>
      cases result with
      | ok =>
          refine Or.inl ⟨after, rfl, ?_⟩
          rw [delivered]
          exact deliver_of_written compiled written
      | error error =>
          refine Or.inr ⟨error, after, rfl, ?_⟩
          rw [delivered]
          exact deliver_of_unwritten compiled written

theorem prepared_of_generate
    (generated : catalog.generate configFile directory tree = (.ok artifact, after)) :
    catalog.Prepares configFile artifact ∧
      after.file? (Location.join directory artifact.name) = some artifact.content ∧
      ∃ place, after.filePlace? (Location.join directory artifact.name) = some place ∧
        tree.Keeps after [place] := by
  rcases catalog.refuses_or_prepares configFile with ⟨error, refuses⟩ | ⟨prepared, prepares⟩
  · rw [generate_of_refuses refuses] at generated
    cases generated
  · rcases generate_of_prepares prepares with
      ⟨later, written, isGenerated⟩ | ⟨error, later, -, isGenerated⟩
    · rw [isGenerated] at generated
      obtain ⟨isArtifact, rfl⟩ := Prod.mk.inj generated
      obtain rfl := Except.ok.inj isArtifact
      obtain ⟨place, leads, isContent, keeps⟩ := FileTree.kept_of_write written
      refine ⟨prepares, ?_, place, leads, keeps⟩
      rw [FileTree.file?_eq_contentAt?, leads]
      exact isContent
    · rw [isGenerated] at generated
      cases generated

theorem refuses_of_generate {error : GenerateError}
    (failed : catalog.generate configFile directory tree = (.error error, after)) :
    catalog.Refuses configFile error ∧ after = tree ∨
      ∃ artifact failure, catalog.Prepares configFile artifact ∧ error = .sink failure ∧
        (failure.path = directory ∨ failure.path = Location.join directory artifact.name) ∧
        tree.Keeps after [] := by
  rcases catalog.refuses_or_prepares configFile with ⟨first, refuses⟩ | ⟨artifact, prepares⟩
  · rw [generate_of_refuses refuses] at failed
    obtain ⟨isFirst, rfl⟩ := Prod.mk.inj failed
    rw [← Except.error.inj isFirst]
    exact Or.inl ⟨refuses, rfl⟩
  · rcases generate_of_prepares prepares with
      ⟨later, -, isGenerated⟩ | ⟨failure, later, unwritten, isGenerated⟩
    · rw [isGenerated] at failed
      cases failed
    · rw [isGenerated] at failed
      obtain ⟨isFailure, rfl⟩ := Prod.mk.inj failed
      obtain ⟨isPath, keeps⟩ := FileTree.kept_of_write_error unwritten
      exact Or.inr ⟨artifact, failure, prepares, (Except.error.inj isFailure).symm, isPath, keeps⟩

/-- What is generated was prepared and is then the content of its file, and no other file is changed. A
failure before writing is the first that is met, and leaves the tree as it was; otherwise it is one of
writing, and no file is changed either. A recorder has the artifact as its last file, and is as it was
when compilation fails. -/
theorem generate_all_or_nothing (catalog : Catalog) (configFile : Option String) (directory : String)
    (tree : FileTree) :
    (∀ artifact after, catalog.generate configFile directory tree = (.ok artifact, after) →
        catalog.Prepares configFile artifact ∧
        after.file? (Location.join directory artifact.name) = some artifact.content ∧
        ∃ place, after.filePlace? (Location.join directory artifact.name) = some place ∧
          tree.Keeps after [place]) ∧
      (∀ error, catalog.Refuses configFile error →
        catalog.generate configFile directory tree = (.error error, tree)) ∧
      (∀ error after, catalog.generate configFile directory tree = (.error error, after) →
        catalog.Refuses configFile error ∧ after = tree ∨
          ∃ artifact failure, catalog.Prepares configFile artifact ∧ error = .sink failure ∧
            (failure.path = directory ∨ failure.path = Location.join directory artifact.name) ∧
            tree.Keeps after []) ∧
      ∀ (config : Config) (current : Version) (recorder : Recorder),
        (∀ artifact after,
          catalog.deliver config current directory Recorder.sink recorder = (.ok artifact, after) ↔
            catalog.compile config current = .ok artifact ∧
              after.files = recorder.files ++
                [{ path := Location.join directory artifact.name, content := artifact.content }]) ∧
        ∀ error after,
          catalog.deliver config current directory Recorder.sink recorder = (.error error, after) ↔
            ∃ failure, catalog.compile config current = .error failure ∧ error = .compile failure ∧
              after = recorder := by
  refine ⟨fun artifact after => prepared_of_generate, fun error => generate_of_refuses,
    fun error after => refuses_of_generate, ?_⟩
  intro config current recorder
  exact ⟨fun artifact after => deliver_recorded_iff, fun error after => deliver_unrecorded_iff⟩

end Catalog

namespace Cinema

def secondVersion : String := "[model]\ncurrent_version = \"2.0.0\"\n"

def ninthVersion : String := "[model]\ncurrent_version = \"9.0.0\"\n"

def notes : FileTree where
  entries := [(FileTree.key ["out"], .directory), (FileTree.key ["out", "notes"], .file "none yet")]

/-- The second version is written into a new directory beside the notes. In place of the notes there can
be no directory, and for a ninth version there is nothing to write. -/
theorem secondVersion_generated :
    (∃ artifact after,
        catalog.generate (some secondVersion) "out/model" notes = (.ok artifact, after) ∧
        catalog.Prepares (some secondVersion) artifact ∧
        after.file? "out/model/contents" = some artifact.content ∧
        after.file? "out/notes" = some "none yet" ∧
        ∃ place, after.filePlace? "out/model/contents" = some place ∧ notes.Keeps after [place]) ∧
      (∃ after, catalog.generate (some secondVersion) "out/notes" notes =
          (.error (.sink ⟨"out/notes"⟩), after) ∧ notes.Keeps after []) ∧
      catalog.Refuses (some ninthVersion) (.compile (.missingSnapshot ⟨9, 0, 0⟩)) ∧
      catalog.generate (some ninthVersion) "out/model" notes =
        (.error (.compile (.missingSnapshot ⟨9, 0, 0⟩)), notes) := by
  obtain ⟨artifact, after, generated, isNamed, notesKept⟩ :
      ∃ artifact after, catalog.generate (some secondVersion) "out/model" notes = (.ok artifact, after) ∧
        artifact.name = "contents" ∧ after.file? "out/notes" = some "none yet" :=
    ⟨_, _, rfl, rfl, rfl⟩
  obtain ⟨whenWritten, -, -, -⟩ := catalog.generate_all_or_nothing (some secondVersion) "out/model" notes
  obtain ⟨-, -, whenFailed, -⟩ := catalog.generate_all_or_nothing (some secondVersion) "out/notes" notes
  obtain ⟨-, whenRefused, -, -⟩ := catalog.generate_all_or_nothing (some ninthVersion) "out/model" notes
  have loaded : Config.load (some ninthVersion) = .ok { currentVersion := some ⟨9, 0, 0⟩ } := rfl
  have refused : catalog.Refuses (some ninthVersion) (.compile (.missingSnapshot ⟨9, 0, 0⟩)) :=
    .compile loaded rfl rfl
  obtain ⟨later, inTheWay⟩ : ∃ after, catalog.generate (some secondVersion) "out/notes" notes =
      (.error (.sink ⟨"out/notes"⟩), after) := ⟨_, rfl⟩
  obtain ⟨prepares, isContent, place, leads, keeps⟩ := whenWritten artifact after generated
  rw [isNamed] at isContent leads
  refine ⟨⟨artifact, after, generated, prepares, isContent, notesKept, place, leads, keeps⟩,
    ⟨later, inTheWay, ?_⟩, refused, whenRefused _ refused⟩
  rcases whenFailed _ _ inTheWay with ⟨isRefused, -⟩ | ⟨-, -, -, -, -, unchanged⟩
  · cases isRefused
  · exact unchanged

end Cinema

end SchemaHistory
