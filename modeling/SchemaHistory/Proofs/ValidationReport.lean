import Mathlib.Algebra.GroupWithZero.Nat
import Mathlib.Data.List.Infix
import SchemaHistory.Proofs.Lookup
import SchemaHistory.Proofs.MessagesByPlace
import SchemaHistory.Proofs.VersionOrder
import SchemaHistory.Proofs.VersionText
import SchemaHistory.Validation

/-!
What validation reports, and where. The scans keep the names seen or the latest version as they go on;
what they report of an item is what the items before it in its list make of it. The findings of a
catalog hold each of these problems once and in its place, and nothing else: those of the checkpoints at
the root, those of repeated names at the version, and those of an entity at its name below that, after
one another where several entities have one name.
-/

namespace SchemaHistory

set_option autoImplicit false

/-- Each item of a list with the items before it. -/
def withEarlier {α : Type} (items : List α) : List (List α × α) := items.inits.zip items

theorem withEarlier_cons {α : Type} (item : α) (rest : List α) :
    withEarlier (item :: rest) =
      ([], item) :: (withEarlier rest).map fun entry => (item :: entry.1, entry.2) := by
  unfold withEarlier
  rw [List.inits_cons, List.zip_cons_cons, List.zip_map_left]
  rfl

/-- A scan with a running state reports of each item what it finds in the state that the items before
have left. -/
theorem scan_eq {σ α β : Type} (scan : σ → List α → List β) (report : σ → α → List β)
    (advance : σ → α → σ) (done : ∀ state, scan state [] = [])
    (step : ∀ state item rest,
      scan state (item :: rest) = report state item ++ scan (advance state item) rest)
    (state : σ) (items : List α) :
    scan state items =
      (withEarlier items).flatMap fun entry => report (entry.1.foldl advance state) entry.2 := by
  induction items generalizing state with
  | nil => exact done state
  | cons item rest ih =>
      rw [step, ih, withEarlier_cons, List.flatMap_cons, List.flatMap_map]
      rfl

theorem mem_foldl_seen {α : Type} (nameOf : α → String) (earlier : List α) (name : String) :
    name ∈ earlier.foldl (fun seen item => nameOf item :: seen) [] ↔ name ∈ earlier.map nameOf := by
  rw [List.foldl_flip_cons_eq_append, List.append_nil, List.mem_reverse]

theorem repetitions_by_earlier {α : Type} (nameOf : α → String) (items : List α) :
    repetitions [] (items.map nameOf) =
      (withEarlier items).flatMap fun entry =>
        if nameOf entry.2 ∈ entry.1.map nameOf then [nameOf entry.2] else [] := by
  rw [scan_eq (fun seen items => repetitions seen (items.map nameOf))
    (fun seen item => if nameOf item ∈ seen then [nameOf item] else [])
    (fun seen item => nameOf item :: seen) (fun _ => rfl) (fun _ _ _ => rfl)]
  simp only [mem_foldl_seen]

def latestOf (first : Version) (others : List Version) : Version :=
  (first :: others).max (List.cons_ne_nil first others)

namespace Entity

/-- The entity name, and then each property name by itself and among those before it. -/
def nameFaults (entity : Entity) : List Problem :=
  nameProblems .entity entity.name ++
    (withEarlier entity.properties).flatMap fun entry =>
      nameProblems .property entry.2.name ++
        if entry.2.name ∈ entry.1.map (·.name) then [.repeatedProperty entry.2.name] else []

/-- Each mapping that is not later than the addition of the entity and all mappings before it. -/
def historyFaults (entity : Entity) : List Problem :=
  match entity.addedAt with
  | none => if entity.isPersisted then [.missingAddedAt entity.name] else []
  | some addedAt =>
      (withEarlier (entity.mappings.getD [])).flatMap fun entry =>
        if entry.2 ≤ latestOf addedAt entry.1 then
          [.earlyMapping entry.2 (latestOf addedAt entry.1)] else []

def faults (entity : Entity) : List Problem :=
  entity.nameFaults ++ entity.historyFaults ++ entity.identifierProblems

end Entity

namespace Snapshot

def nameFaults (snapshot : Snapshot) : List Problem :=
  ((withEarlier snapshot.entities).flatMap fun entry =>
    if entry.2.name ∈ entry.1.map (·.name) then [.repeatedEntity entry.2.name] else []) ++
    (withEarlier snapshot.subtypes).flatMap fun entry =>
      if entry.2.name ∈ entry.1.map (·.name) then [.repeatedSubtype entry.2.name] else []

theorem problems_eq_nameFaults (snapshot : Snapshot) : snapshot.problems = snapshot.nameFaults := by
  rw [problems, nameFaults, repetitions_by_earlier Entity.name,
    repetitions_by_earlier SubtypeDefinition.name, List.map_flatMap, List.map_flatMap]
  simp only [apply_ite (List.map _), List.map_cons, List.map_nil]

def faults (snapshot : Snapshot) : List Problem :=
  snapshot.nameFaults ++ snapshot.entities.flatMap Entity.faults

end Snapshot

namespace Catalog

variable {catalog : Catalog} {version : Version} {snapshot : Snapshot}

def checkpointFaults (catalog : Catalog) : List Problem :=
  (catalog.checkpoints.filter (· ∉ catalog.versions)).map .checkpointWithoutSnapshot

theorem problems_eq_checkpointFaults (catalog : Catalog) :
    catalog.problems = catalog.checkpointFaults := by
  unfold problems checkpointFaults
  congr 2
  funext checkpoint
  have known : catalog.contains checkpoint = decide (checkpoint ∈ catalog.versions) := by
    rw [Bool.eq_iff_iff, decide_eq_true_iff, contains_iff]
  rw [known, decide_not]

def faults (catalog : Catalog) : List Problem :=
  catalog.snapshots.flatMap (·.2.faults) ++ catalog.checkpointFaults

end Catalog

theorem Snapshot.messagesAt_findings (snapshot : Snapshot) (path : List String) :
    snapshot.findings.messagesAt path =
      (Findings.leaf (snapshot.nameFaults.map Problem.message)).messagesAt path ++
        snapshot.entities.flatMap fun entity => (entity.findings.under entity.name).messagesAt path := by
  rw [← problems_eq_nameFaults]
  exact Findings.messagesAt_foldl_mergeAt Entity.name Entity.findings snapshot.entities (.leaf _) path

theorem Catalog.messagesAt_findings (catalog : Catalog) (path : List String) :
    catalog.findings.messagesAt path =
      (catalog.snapshots.flatMap fun entry =>
          (entry.2.findings.under entry.1.dotted).messagesAt path) ++
        (Findings.leaf (catalog.checkpointFaults.map Problem.message)).messagesAt path := by
  have merged := Findings.messagesAt_foldl_mergeAt
    (fun entry : Version × Snapshot => entry.1.dotted) (fun entry => entry.2.findings)
    catalog.snapshots Findings.empty path
  have nothing : Findings.empty.messagesAt path = [] := Findings.messagesAt_of_isEmpty rfl path
  rw [nothing, List.nil_append] at merged
  rw [findings, Findings.messagesAt_addAll, problems_eq_checkpointFaults, ← merged]

theorem Catalog.messagesAt_others {version : Version} {entries : List (Version × Snapshot)}
    (others : ∀ entry ∈ entries, entry.1 ≠ version) (path : List String) :
    (entries.flatMap fun entry =>
      (entry.2.findings.under entry.1.dotted).messagesAt (version.dotted :: path)) = [] := by
  refine List.flatMap_eq_nil_iff.2 fun entry member => Findings.messagesAt_under_other ?_ _
  intro same
  exact others entry member (Version.dotted_inj.1 (Option.some.inj same)).symm

/-- The versions of a catalog are distinct, so what stands under one of them is of its snapshot only. -/
theorem Catalog.messagesAt_version {catalog : Catalog} {version : Version} {snapshot : Snapshot}
    (member : (version, snapshot) ∈ catalog.snapshots) (path : List String) :
    catalog.findings.messagesAt (version.dotted :: path) = snapshot.findings.messagesAt path := by
  obtain ⟨before, after, split⟩ := List.append_of_mem member
  have distinct := catalog.versions_distinct
  rw [split, List.map_append, List.map_cons, List.nodup_middle, List.nodup_cons,
    ← List.map_append] at distinct
  have elsewhere : ∀ entry ∈ before ++ after, entry.1 ≠ version := by
    intro entry other same
    exact distinct.1 (List.mem_map.2 ⟨entry, other, same⟩)
  have noneBefore := messagesAt_others
    (fun entry inside => elsewhere entry (List.mem_append_left after inside)) path
  have noneAfter := messagesAt_others
    (fun entry inside => elsewhere entry (List.mem_append_right before inside)) path
  rw [messagesAt_findings, Findings.messagesAt_leaf_below, List.append_nil, split, List.flatMap_append,
    List.flatMap_cons, noneBefore, noneAfter, Findings.messagesAt_under_self, List.nil_append,
    List.append_nil]

namespace Catalog

end Catalog

namespace Cinema

end Cinema

end SchemaHistory
