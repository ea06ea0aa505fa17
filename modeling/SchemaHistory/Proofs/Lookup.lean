import Mathlib.Data.List.Nodup
import SchemaHistory.Schema.Catalog

/-!
What looking something up by its name gives: the first that has the name, or an error that says which
name no one has.
-/

namespace SchemaHistory

set_option autoImplicit false

theorem none_named_iff {α : Type} (nameOf : α → String) {items : List α} {name : String} :
    items.find? (nameOf · == name) = none ↔ ∀ item ∈ items, nameOf item ≠ name := by
  simp [List.find?_eq_none]

theorem find_named_of_perm {α : Type} (nameOf : α → String) {items others : List α}
    (distinct : (items.map nameOf).Nodup) (rearranged : items.Perm others) (name : String) :
    items.find? (nameOf · == name) = others.find? (nameOf · == name) := by
  cases found : others.find? (nameOf · == name) with
  | none =>
      rw [none_named_iff] at found ⊢
      intro item member
      exact found item (rearranged.mem_iff.1 member)
  | some item =>
      have member := rearranged.mem_iff.2 (List.mem_of_find?_eq_some found)
      have named : nameOf item = name := by simpa using List.find?_some found
      cases first : items.find? (nameOf · == name) with
      | none => exact absurd named ((none_named_iff nameOf).1 first item member)
      | some other =>
          have otherNamed : nameOf other = name := by simpa using List.find?_some first
          have same := List.inj_on_of_nodup_map distinct (List.mem_of_find?_eq_some first) member
            (otherNamed.trans named.symm)
          rw [same]

theorem find_named_append {α : Type} (nameOf : α → String) {items added : List α} {name : String}
    (unaided : items.find? (nameOf · == name) = none → ∀ item ∈ added, nameOf item ≠ name) :
    (items ++ added).find? (nameOf · == name) = items.find? (nameOf · == name) := by
  rw [List.find?_append]
  cases found : items.find? (nameOf · == name) with
  | some item => rfl
  | none =>
      have notAdded : added.find? (nameOf · == name) = none :=
        (none_named_iff nameOf).2 (unaided found)
      rw [notAdded]
      rfl

/-- Keys that are renamed without making two of them equal lead to the values that they led to. -/
theorem lookup_map_entries {κ ι α β : Type} [BEq κ] [LawfulBEq κ] [BEq ι] [LawfulBEq ι]
    {rename : κ → ι} (injective : Function.Injective rename) (convert : α → β)
    (entries : List (κ × α)) (key : κ) :
    (entries.map fun entry => (rename entry.1, convert entry.2)).lookup (rename key) =
      (entries.lookup key).map convert := by
  induction entries with
  | nil => rfl
  | cons entry rest ih =>
      have sameKey : (rename key == rename entry.1) = (key == entry.1) := by
        rw [Bool.eq_iff_iff, beq_iff_eq, beq_iff_eq, injective.eq_iff]
      rw [List.map_cons, List.lookup_cons, List.lookup_cons, ih, sameKey]
      cases key == entry.1 <;> rfl

namespace Entity

variable {entity : Entity} {name : String}

theorem property_eq_error {error : LookupError} :
    entity.property name = .error error ↔
      error = .unknownProperty entity.name name ∧
        ∀ property ∈ entity.properties, property.name ≠ name := by
  rw [← none_named_iff Property.name]
  unfold Entity.property
  cases entity.properties.find? (·.name == name) <;> simp [eq_comm]

theorem mem_of_property {property : Property} (found : entity.property name = .ok property) :
    property ∈ entity.properties := by
  unfold Entity.property at found
  split at found
  · rename_i candidate known
    obtain rfl := Except.ok.inj found
    exact List.mem_of_find?_eq_some known
  · simp at found

end Entity

namespace Snapshot

variable {snapshot : Snapshot} {entity : Entity} {name : String}

theorem entity_eq_ok :
    snapshot.entity name = .ok entity ↔
      snapshot.entities.find? (·.name == name) = some entity := by
  unfold Snapshot.entity
  cases snapshot.entities.find? (·.name == name) <;> simp

theorem entity_eq_error {error : LookupError} :
    snapshot.entity name = .error error ↔
      error = .unknownEntity name ∧ ∀ entity ∈ snapshot.entities, entity.name ≠ name := by
  rw [← none_named_iff Entity.name]
  unfold Snapshot.entity
  cases snapshot.entities.find? (·.name == name) <;> simp [eq_comm]

theorem mem_of_entity (found : snapshot.entity name = .ok entity) : entity ∈ snapshot.entities :=
  List.mem_of_find?_eq_some (entity_eq_ok.1 found)

theorem name_of_entity (found : snapshot.entity name = .ok entity) : entity.name = name := by
  simpa using List.find?_some (entity_eq_ok.1 found)

theorem entity_of_mem (distinct : (snapshot.entities.map (·.name)).Nodup)
    (member : entity ∈ snapshot.entities) : snapshot.entity entity.name = .ok entity := by
  cases lookup : snapshot.entity entity.name with
  | error error =>
      obtain ⟨-, unknown⟩ := entity_eq_error.1 lookup
      exact absurd rfl (unknown entity member)
  | ok other =>
      have sameName := name_of_entity lookup
      have same := List.inj_on_of_nodup_map distinct (mem_of_entity lookup) member sameName
      rw [same]

theorem subtype_eq_error {error : LookupError} :
    snapshot.subtype name = .error error ↔
      error = .unknownSubtype name ∧ ∀ subtype ∈ snapshot.subtypes, subtype.name ≠ name := by
  rw [← none_named_iff SubtypeDefinition.name]
  unfold Snapshot.subtype
  cases snapshot.subtypes.find? (·.name == name) <;> simp [eq_comm]

end Snapshot

theorem Catalog.mem_of_snapshot {catalog : Catalog} {version : Version} {snapshot : Snapshot}
    (found : catalog.snapshot version = .ok snapshot) : (version, snapshot) ∈ catalog.snapshots := by
  unfold Catalog.snapshot at found
  split at found
  · rename_i stored known
    obtain rfl := Except.ok.inj found
    exact Ascending.mem_of_lookup known
  · simp at found

theorem Catalog.versions_distinct (catalog : Catalog) : (catalog.snapshots.map Prod.fst).Nodup := by
  rw [List.nodup_iff_pairwise_ne, List.pairwise_map]
  refine catalog.ascending.imp ?_
  intro left right precedes same
  rw [same] at precedes
  exact Version.lt_irrefl _ (of_decide_eq_true precedes)

/-- The snapshots ascend by version, so none hides another. -/
theorem Catalog.snapshot_of_mem {catalog : Catalog} {version : Version} {snapshot : Snapshot}
    (member : (version, snapshot) ∈ catalog.snapshots) : catalog.snapshot version = .ok snapshot := by
  rw [Ascending.mem_iff_lookup Version.precedes_irrefl catalog.ascending] at member
  unfold Catalog.snapshot
  rw [member]

theorem Catalog.contains_iff {catalog : Catalog} {version : Version} :
    catalog.contains version = true ↔ version ∈ catalog.versions := by
  rw [Catalog.contains, Catalog.versions, Ascending.isSome_lookup_iff]

theorem Catalog.mem_versions_iff {catalog : Catalog} {version : Version} :
    version ∈ catalog.versions ↔ ∃ snapshot, catalog.snapshot version = .ok snapshot := by
  unfold Catalog.versions
  rw [List.mem_map]
  constructor
  · intro listed
    obtain ⟨entry, member, rfl⟩ := listed
    exact ⟨entry.2, Catalog.snapshot_of_mem member⟩
  · intro known
    obtain ⟨snapshot, found⟩ := known
    exact ⟨(version, snapshot), Catalog.mem_of_snapshot found, rfl⟩

theorem Catalog.snapshot_eq_error {catalog : Catalog} {version : Version} {error : CatalogError} :
    catalog.snapshot version = .error error ↔
      error = .missingSnapshot version ∧ version ∉ catalog.versions := by
  rw [Catalog.mem_versions_iff]
  unfold Catalog.snapshot
  cases catalog.snapshots.lookup version <;> simp [eq_comm]

end SchemaHistory
