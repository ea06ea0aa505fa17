import Mathlib.Data.List.Induction
import SchemaHistory.Proofs.Lookup
import SchemaHistory.Proofs.VersionOrder

/-!
Collecting snapshots to a catalog. Each snapshot of a list is put in the place of the one that its version
had so far, so in the end a version has the snapshot that stands last for it. The snapshots ascend by the
numbers of their versions, wherever they stand in the list, and no other list has both properties.
-/

namespace SchemaHistory

set_option autoImplicit false

namespace Catalog

variable {catalog : Catalog} {pairs others entries : List (Version × Snapshot)} {version : Version}
  {snapshot : Snapshot}

/-- The list has the snapshot for the version, and none for it further on. -/
def StandsLast (pairs : List (Version × Snapshot)) (version : Version) (snapshot : Snapshot) : Prop :=
  ∃ before after, pairs = before ++ (version, snapshot) :: after ∧ version ∉ after.map Prod.fst

theorem standsLast_iff :
    StandsLast pairs version snapshot ↔ pairs.reverse.lookup version = some snapshot := by
  have absent : ∀ entries : List (Version × Snapshot),
      (∀ entry ∈ entries, (version != entry.1) = true) ↔ version ∉ entries.map Prod.fst := by
    intro entries
    simp only [bne_iff_ne, List.mem_map, not_exists, not_and]
    exact forall₂_congr fun entry _ => ne_comm
  rw [List.lookup_eq_some_iff]
  constructor
  · rintro ⟨before, after, rfl, isLast⟩
    refine ⟨after.reverse, before.reverse, by simp, (absent _).2 ?_⟩
    rwa [List.map_reverse, List.mem_reverse]
  · rintro ⟨after, before, reversed, isFirst⟩
    refine ⟨before.reverse, after.reverse, ?_, ?_⟩
    · rw [← List.reverse_reverse pairs, reversed]
      simp
    · rw [List.map_reverse, List.mem_reverse]
      exact (absent _).1 isFirst

theorem exists_standsLast_iff :
    (∃ snapshot, StandsLast pairs version snapshot) ↔ version ∈ pairs.map Prod.fst := by
  simp only [standsLast_iff]
  rw [← Option.isSome_iff_exists, Ascending.isSome_lookup_iff, List.map_reverse, List.mem_reverse]

theorem standsLast_iff_mem (distinct : (pairs.map Prod.fst).Nodup) :
    StandsLast pairs version snapshot ↔ (version, snapshot) ∈ pairs := by
  constructor
  · rintro ⟨before, after, rfl, -⟩
    exact List.mem_append_right before List.mem_cons_self
  · intro member
    obtain ⟨before, after, rfl⟩ := List.append_of_mem member
    rw [List.map_append, List.nodup_append, List.map_cons, List.nodup_cons] at distinct
    exact ⟨before, after, rfl, distinct.2.1.1⟩

theorem ofList_concat (pairs : List (Version × Snapshot)) (version : Version)
    (snapshot : Snapshot) :
    ofList (pairs ++ [(version, snapshot)]) = (ofList pairs).insert version snapshot := by
  rw [ofList, List.foldl_append]
  rfl

theorem lookup_insert_self :
    (catalog.insert version snapshot).snapshots.lookup version = some snapshot :=
  Ascending.lookup_alter_self Version.precedes_isStrict (Version.precedes_irrefl version) _
    catalog.ascending

theorem lookup_insert_other {other : Version} (different : other ≠ version) :
    (catalog.insert version snapshot).snapshots.lookup other = catalog.snapshots.lookup other :=
  Ascending.lookup_alter_other different catalog.snapshots

/-- Each snapshot that is added hides what the list has for its version before it. -/
theorem lookup_ofList (pairs : List (Version × Snapshot)) (version : Version) :
    (ofList pairs).snapshots.lookup version = pairs.reverse.lookup version := by
  induction pairs using List.reverseRecOn with
  | nil => rfl
  | append_singleton earlier last ih =>
      obtain ⟨lastVersion, snapshot⟩ := last
      rw [ofList_concat, List.reverse_append, List.reverse_singleton, List.singleton_append]
      by_cases same : version = lastVersion
      · rw [same, lookup_insert_self, List.lookup_cons_self]
      · rw [lookup_insert_other same, ih, List.lookup_cons, beq_eq_false_iff_ne.2 same]

theorem checkpoints_ofList (pairs : List (Version × Snapshot)) : (ofList pairs).checkpoints = [] := by
  induction pairs using List.reverseRecOn with
  | nil => rfl
  | append_singleton earlier last ih =>
      rw [ofList_concat]
      exact ih

theorem mem_ofList_iff :
    (version, snapshot) ∈ (ofList pairs).snapshots ↔ StandsLast pairs version snapshot := by
  rw [Ascending.mem_iff_lookup Version.precedes_irrefl (ofList pairs).ascending, lookup_ofList,
    standsLast_iff]

theorem snapshot_ofList_eq_ok :
    (ofList pairs).snapshot version = .ok snapshot ↔ StandsLast pairs version snapshot := by
  rw [← mem_ofList_iff]
  exact ⟨mem_of_snapshot, snapshot_of_mem⟩

theorem mem_versions_ofList : version ∈ (ofList pairs).versions ↔ version ∈ pairs.map Prod.fst := by
  rw [mem_versions_iff, ← exists_standsLast_iff]
  simp only [snapshot_ofList_eq_ok]

theorem sorted_iff_numbers :
    Ascending.Sorted Version.precedes entries ↔
      (entries.map fun entry => entry.1.numbers).Pairwise (· < ·) := by
  simp only [Ascending.Sorted, Version.precedes, decide_eq_true_eq, List.pairwise_map,
    Version.numbers_lt_iff]

/-- The entries are those of the list that stand last for their versions, in the order of the numbers of
these versions. -/
structure LastInOrder (pairs entries : List (Version × Snapshot)) : Prop where
  ascending : (entries.map fun entry => entry.1.numbers).Pairwise (· < ·)
  last : ∀ version snapshot, (version, snapshot) ∈ entries ↔ StandsLast pairs version snapshot

theorem snapshots_ofList_iff : (ofList pairs).snapshots = entries ↔ LastInOrder pairs entries := by
  constructor
  · rintro rfl
    exact ⟨sorted_iff_numbers.1 (ofList pairs).ascending, fun _ _ => mem_ofList_iff⟩
  · intro lastInOrder
    apply Ascending.eq_of_mem_iff Version.precedes_isStrict Version.precedes_irrefl
      (ofList pairs).ascending (sorted_iff_numbers.2 lastInOrder.ascending)
    intro entry
    rw [lastInOrder.last, mem_ofList_iff]

/-- Two lists are collected to the same snapshots when the same ones stand last in them. -/
theorem ofList_eq_of_standsLast
    (same : ∀ version snapshot, StandsLast pairs version snapshot ↔ StandsLast others version snapshot) :
    ofList pairs = ofList others := by
  apply eq_of_lists
  · rw [snapshots_ofList_iff]
    have lastInOrder : LastInOrder others (ofList others).snapshots := snapshots_ofList_iff.1 rfl
    exact ⟨lastInOrder.ascending, fun version snapshot =>
      (lastInOrder.last version snapshot).trans (same version snapshot).symm⟩
  · rw [checkpoints_ofList, checkpoints_ofList]

/-- A catalog that is collected from a list iterates over the snapshots that stand last in it, in the order
of the numbers of their versions. It has the versions of the list and no others, answers for each with
its last snapshot and for any other with the error that names it, and has no checkpoints. So lists
of the same snapshots for different versions are collected to the same catalog. -/
theorem collects_last (pairs : List (Version × Snapshot)) :
    (∀ entries, (ofList pairs).snapshots = entries ↔ LastInOrder pairs entries) ∧
      (∀ version,
        (version ∈ (ofList pairs).versions ↔ version ∈ pairs.map Prod.fst) ∧
          ((ofList pairs).contains version = true ↔ version ∈ pairs.map Prod.fst) ∧
          (∀ snapshot,
            (ofList pairs).snapshot version = .ok snapshot ↔ StandsLast pairs version snapshot) ∧
          ∀ error, (ofList pairs).snapshot version = .error error ↔
            error = .missingSnapshot version ∧ version ∉ pairs.map Prod.fst) ∧
      (ofList pairs).checkpoints = [] ∧
      ∀ others, (pairs.map Prod.fst).Nodup → pairs.Perm others → ofList pairs = ofList others := by
  refine ⟨fun entries => snapshots_ofList_iff, ?_, checkpoints_ofList pairs, ?_⟩
  · intro version
    refine ⟨mem_versions_ofList, contains_iff.trans mem_versions_ofList,
      fun snapshot => snapshot_ofList_eq_ok, fun error => ?_⟩
    rw [snapshot_eq_error, mem_versions_ofList]
  · intro others distinct rearranged
    have distinctOthers : (others.map Prod.fst).Nodup := (rearranged.map Prod.fst).nodup_iff.1 distinct
    apply ofList_eq_of_standsLast
    intro version snapshot
    rw [standsLast_iff_mem distinct, standsLast_iff_mem distinctOthers, rearranged.mem_iff]

end Catalog

namespace Cinema

def lobby : Snapshot := { entities := [{ name := "Lobby" }] }

def foyer : Snapshot := { entities := [{ name := "Foyer" }] }

def closed : Snapshot := {}

def lobbies : List (Version × Snapshot) :=
  [(⟨1, 10, 0⟩, foyer), (⟨1, 9, 0⟩, lobby), (⟨10, 0, 0⟩, closed), (⟨2, 0, 0⟩, lobby)]

def renewedLobbies : List (Version × Snapshot) :=
  lobbies ++ [(⟨2, 0, 0⟩, closed), (⟨2, 0, 0⟩, foyer), (⟨1, 9, 0⟩, closed)]

theorem lobbies_collected :
    (lobbies.map Prod.fst).Nodup ∧ lobbies.Perm lobbies.reverse ∧
      Catalog.ofList lobbies = Catalog.ofList lobbies.reverse ∧
      (Catalog.ofList lobbies).versions = [⟨1, 9, 0⟩, ⟨1, 10, 0⟩, ⟨2, 0, 0⟩, ⟨10, 0, 0⟩] ∧
      (Catalog.ofList renewedLobbies).snapshot ⟨2, 0, 0⟩ = .ok foyer ∧
      (Catalog.ofList renewedLobbies).snapshot ⟨3, 0, 0⟩ = .error (.missingSnapshot ⟨3, 0, 0⟩) := by
  have distinct : (lobbies.map Prod.fst).Nodup := by decide
  have rearranged : lobbies.Perm lobbies.reverse := (List.reverse_perm lobbies).symm
  obtain ⟨-, -, -, inAnyOrder⟩ := Catalog.collects_last lobbies
  obtain ⟨-, byVersion, -⟩ := Catalog.collects_last renewedLobbies
  refine ⟨distinct, rearranged, inAnyOrder _ distinct rearranged, rfl, ?_, ?_⟩
  · apply ((byVersion ⟨2, 0, 0⟩).2.2.1 foyer).2
    exact ⟨lobbies ++ [(_, closed)], [(_, closed)], rfl, by decide⟩
  · apply ((byVersion ⟨3, 0, 0⟩).2.2.2 (.missingSnapshot ⟨3, 0, 0⟩)).2
    exact ⟨rfl, by decide⟩

end Cinema

end SchemaHistory
