import SchemaHistory.Ascending
import SchemaHistory.Schema.Snapshot

/-!
A catalog holds one snapshot for each of its versions, in ascending order, and the author's list of
checkpoints: the versions whose snapshots older shapes may be drawn from.
-/

namespace SchemaHistory

set_option autoImplicit false

inductive CatalogError where
  | missingSnapshot (version : Version)
  deriving DecidableEq

def CatalogError.message : CatalogError → String
  | .missingSnapshot version => "could not find descriptions for version " ++ version.dotted

def Version.precedes (left right : Version) : Bool := decide (left < right)

theorem Version.precedes_isStrict : Ascending.IsStrict Version.precedes where
  trans left right := by
    simp only [Version.precedes, decide_eq_true_eq] at *
    exact Version.lt_trans left right
  total {left right} notBefore different := by
    simp only [Version.precedes, decide_eq_true_eq, decide_eq_false_iff_not] at *
    rcases Version.lt_trichotomy left right with before | equal | after
    · exact absurd before notBefore
    · exact absurd equal different
    · exact after

theorem Version.precedes_irrefl (version : Version) : version.precedes version = false :=
  decide_eq_false (Version.lt_irrefl version)

structure Catalog where
  snapshots : List (Version × Snapshot) := []
  checkpoints : List Version := []
  ascending : Ascending.Sorted Version.precedes snapshots := by exact List.Pairwise.nil

namespace Catalog

theorem eq_of_lists {left right : Catalog} (snapshots : left.snapshots = right.snapshots)
    (checkpoints : left.checkpoints = right.checkpoints) : left = right := by
  cases left
  cases right
  cases snapshots
  cases checkpoints
  rfl

instance : BEq Catalog :=
  ⟨fun left right => left.snapshots == right.snapshots && left.checkpoints == right.checkpoints⟩

def snapshot (catalog : Catalog) (version : Version) : Except CatalogError Snapshot :=
  match catalog.snapshots.lookup version with
  | some snapshot => .ok snapshot
  | none => .error (.missingSnapshot version)

def contains (catalog : Catalog) (version : Version) : Bool :=
  (catalog.snapshots.lookup version).isSome

def versions (catalog : Catalog) : List Version := catalog.snapshots.map Prod.fst

def insert (catalog : Catalog) (version : Version) (snapshot : Snapshot) : Catalog where
  snapshots := Ascending.alter Version.precedes version (fun _ => snapshot) catalog.snapshots
  checkpoints := catalog.checkpoints
  ascending := Ascending.sorted_alter Version.precedes_isStrict _ _ catalog.ascending

def withCheckpoints (catalog : Catalog) (checkpoints : List Version) : Catalog :=
  { catalog with checkpoints }

/-- The catalog of some snapshots, without checkpoints. Of two for one version the later is kept. -/
def ofList (pairs : List (Version × Snapshot)) : Catalog :=
  pairs.foldl (fun catalog (version, snapshot) => catalog.insert version snapshot) {}

end Catalog

end SchemaHistory
