import Mathlib.Data.List.Pairwise
import SchemaHistory.Proofs.Findings
import SchemaHistory.Proofs.Lookup
import SchemaHistory.Proofs.VersionOrder
import SchemaHistory.Validation

/-!
What a sound catalog is, rule by rule, and that nothing is found in a catalog exactly when it is sound.
The scans with their lists of names seen and their latest version decide the rules, and what they
report is not lost on its way into the findings of the catalog.
-/

namespace SchemaHistory

set_option autoImplicit false

/-- At least one character, and only characters of ASCII. -/
def ProperName (name : String) : Prop := name ≠ "" ∧ ∀ char ∈ name.toList, char.toNat < 128

structure Entity.Sound (entity : Entity) : Prop where
  properName : ProperName entity.name
  properPropertyNames : ∀ property ∈ entity.properties, ProperName property.name
  distinctProperties : (entity.properties.map (·.name)).Nodup
  addedAtKnown : entity.isPersisted = true → ∃ addedAt, entity.addedAt = some addedAt
  ascendingHistory : ∀ addedAt mappings, entity.addedAt = some addedAt →
    entity.mappings = some mappings → (addedAt :: mappings).Pairwise (· < ·)
  identifierKnown : ∀ name, entity.identifier = .property name →
    ∃ property ∈ entity.properties, property.name = name

structure Snapshot.Sound (snapshot : Snapshot) : Prop where
  distinctEntities : (snapshot.entities.map (·.name)).Nodup
  distinctSubtypes : (snapshot.subtypes.map (·.name)).Nodup
  soundEntities : ∀ entity ∈ snapshot.entities, entity.Sound

structure Catalog.Sound (catalog : Catalog) : Prop where
  soundSnapshots : ∀ entry ∈ catalog.snapshots, entry.2.Sound
  checkpointsKnown : ∀ version ∈ catalog.checkpoints,
    ∃ snapshot, catalog.snapshot version = .ok snapshot

theorem nameProblems_eq_nil {kind : Named} {name : String} :
    nameProblems kind name = [] ↔ ProperName name := by
  unfold nameProblems ProperName
  split
  · simp_all
  · split <;> simp_all

theorem repetitions_eq_nil {seen names : List String} :
    repetitions seen names = [] ↔ names.Nodup ∧ ∀ name ∈ names, name ∉ seen := by
  induction names generalizing seen with
  | nil => simp [repetitions]
  | cons name rest ih =>
      rw [repetitions, List.append_eq_nil_iff, ih, List.nodup_cons]
      by_cases known : name ∈ seen
      · simp [known]
      · simp only [known, if_false, true_and, List.mem_cons, not_or]
        constructor
        · intro scanned
          rcases scanned with ⟨distinct, fresh⟩
          refine ⟨⟨fun member => (fresh name member).1 rfl, distinct⟩, ?_⟩
          intro other member
          rcases member with rfl | later
          · exact known
          · exact (fresh other later).2
        · intro listed
          rcases listed with ⟨⟨absent, distinct⟩, fresh⟩
          refine ⟨distinct, ?_⟩
          intro other member
          have different : other ≠ name := by
            intro same
            exact absent (same ▸ member)
          exact ⟨different, fresh other (Or.inr member)⟩

theorem propertyProblems_eq_nil {seen : List String} {properties : List Property} :
    propertyProblems seen properties = [] ↔
      (∀ property ∈ properties, ProperName property.name) ∧
        repetitions seen (properties.map (·.name)) = [] := by
  induction properties generalizing seen with
  | nil => simp [propertyProblems, repetitions]
  | cons property rest ih =>
      by_cases known : property.name ∈ seen <;>
        simp [propertyProblems, repetitions, nameProblems_eq_nil, ih, known, and_assoc]

/-- Where no mapping is early, the latest version so far is always the one just before. -/
theorem mappingProblems_eq_nil {latest : Version} {targets : List Version} :
    mappingProblems latest targets = [] ↔ (latest :: targets).Pairwise (· < ·) := by
  induction targets generalizing latest with
  | nil => simp [mappingProblems]
  | cons target rest ih =>
      rw [List.pairwise_cons_cons_iff_of_trans, ← ih, mappingProblems]
      by_cases later : latest < target
      · rw [if_neg (not_le_of_gt later), max_eq_right (le_of_lt later)]
        simp [later]
      · rw [if_pos (not_lt.1 later)]
        simp [later]

theorem Entity.historyProblems_eq_nil {entity : Entity} :
    entity.historyProblems = [] ↔
      (entity.isPersisted = true → ∃ addedAt, entity.addedAt = some addedAt) ∧
        ∀ addedAt mappings, entity.addedAt = some addedAt → entity.mappings = some mappings →
          (addedAt :: mappings).Pairwise (· < ·) := by
  unfold historyProblems
  cases entity.addedAt with
  | none => simp
  | some addedAt =>
      cases entity.mappings with
      | none => simp [mappingProblems]
      | some mappings => simp [mappingProblems_eq_nil]

theorem Entity.identifierProblems_eq_nil {entity : Entity} :
    entity.identifierProblems = [] ↔
      ∀ name, entity.identifier = .property name →
        ∃ property ∈ entity.properties, property.name = name := by
  unfold identifierProblems
  cases entity.identifier <;> simp

theorem Entity.problems_eq_nil {entity : Entity} : entity.problems = [] ↔ entity.Sound := by
  simp only [problems, namingProblems, List.append_eq_nil_iff, nameProblems_eq_nil,
    propertyProblems_eq_nil, repetitions_eq_nil, historyProblems_eq_nil, identifierProblems_eq_nil]
  constructor
  · intro scanned
    rcases scanned with
      ⟨⟨⟨proper, properProperties, distinct, -⟩, addedAt, ascending⟩, identifier⟩
    exact ⟨proper, properProperties, distinct, addedAt, ascending, identifier⟩
  · intro sound
    rcases sound with ⟨proper, properProperties, distinct, addedAt, ascending, identifier⟩
    exact ⟨⟨⟨proper, properProperties, distinct, by simp⟩, addedAt, ascending⟩, identifier⟩

theorem Snapshot.problems_eq_nil {snapshot : Snapshot} :
    snapshot.problems = [] ↔ (snapshot.entities.map (·.name)).Nodup ∧
      (snapshot.subtypes.map (·.name)).Nodup := by
  simp [problems, repetitions_eq_nil]

theorem Catalog.problems_eq_nil {catalog : Catalog} :
    catalog.problems = [] ↔
      ∀ version ∈ catalog.checkpoints, ∃ snapshot, catalog.snapshot version = .ok snapshot := by
  simp only [problems, List.map_eq_nil_iff, List.filter_eq_nil_iff, Bool.not_eq_true',
    Bool.not_eq_false]
  refine forall₂_congr fun version _ => ?_
  rw [contains_iff, mem_versions_iff]

theorem Findings.isEmpty_of_problems {problems : List Problem} :
    (Findings.leaf (problems.map Problem.message)).isEmpty = true ↔ problems = [] := by
  simp [Findings.isEmpty, Findings.leaf, Findings.Tree.isEmpty, Findings.Tree.areEmpty]

theorem Snapshot.findings_isEmpty {snapshot : Snapshot} :
    snapshot.findings.isEmpty = true ↔ snapshot.Sound := by
  unfold findings
  rw [Findings.isEmpty_foldl_mergeAt, Bool.and_eq_true, Findings.isEmpty_of_problems,
    Snapshot.problems_eq_nil, List.all_eq_true]
  simp only [Entity.findings, Findings.isEmpty_of_problems, Entity.problems_eq_nil]
  constructor
  · intro scanned
    rcases scanned with ⟨⟨entities, subtypes⟩, sound⟩
    exact ⟨entities, subtypes, sound⟩
  · intro keepsRules
    rcases keepsRules with ⟨entities, subtypes, sound⟩
    exact ⟨⟨entities, subtypes⟩, sound⟩

theorem Catalog.findings_isEmpty {catalog : Catalog} :
    catalog.findings.isEmpty = true ↔ catalog.Sound := by
  unfold findings
  rw [Findings.isEmpty_addAll, Findings.isEmpty_foldl_mergeAt]
  simp only [Bool.and_eq_true, List.all_eq_true, Snapshot.findings_isEmpty, List.isEmpty_iff,
    List.map_eq_nil_iff, Catalog.problems_eq_nil]
  constructor
  · intro scanned
    rcases scanned with ⟨⟨-, snapshots⟩, checkpoints⟩
    exact ⟨snapshots, checkpoints⟩
  · intro keepsRules
    rcases keepsRules with ⟨snapshots, checkpoints⟩
    exact ⟨⟨rfl, snapshots⟩, checkpoints⟩

theorem Catalog.sound_of_valid {catalog : Catalog} (valid : catalog.validate = .ok ()) :
    catalog.Sound :=
  Catalog.findings_isEmpty.1 (Findings.result_eq_ok.1 valid)

/-- A catalog passes validation exactly when it keeps all the rules. -/
theorem Catalog.validate_eq_ok_iff (catalog : Catalog) :
    catalog.validate = .ok () ↔ catalog.Sound := by
  rw [validate, Findings.result_eq_ok, Catalog.findings_isEmpty]

end SchemaHistory
