import SchemaHistory.Proofs.SoundCompilation

/-!
Under which name an entity is found in an older snapshot. Its ancestors are traced from snapshot to
snapshot, each under the name that the one after it has or had before. A shape is drawn in one step
instead: only the present name and the one former name of the entity itself are tried, so of the
ancestors those are found that bear one of the two.
-/

namespace SchemaHistory

open Traversal

set_option autoImplicit false

namespace Snapshot

variable {snapshot : Snapshot} {entity found : Entity}

/-- The entity that the snapshot has in place of a later one: under its name, or else under the name
that the later one had before. -/
def predecessor (snapshot : Snapshot) (entity : Entity) : Option Entity :=
  match snapshot.entity entity.name with
  | .ok predecessor => some predecessor
  | .error _ => entity.previousName.bind fun name => (snapshot.entity name).toOption

theorem predecessor_of_known (known : snapshot.entity entity.name = .ok found) :
    snapshot.predecessor entity = some found := by
  unfold predecessor
  rw [known]

theorem predecessor_of_unknown (unknown : ∀ other ∈ snapshot.entities, other.name ≠ entity.name) :
    snapshot.predecessor entity =
      entity.previousName.bind fun name => (snapshot.entity name).toOption := by
  have missing : snapshot.entity entity.name = .error (.unknownEntity entity.name) :=
    entity_eq_error.2 ⟨rfl, unknown⟩
  unfold predecessor
  rw [missing]

theorem predecessor_eq_some :
    snapshot.predecessor entity = some found ↔
      snapshot.entity entity.name = .ok found ∨
        (∀ other ∈ snapshot.entities, other.name ≠ entity.name) ∧
          ∃ name, entity.previousName = some name ∧ snapshot.entity name = .ok found := by
  cases known : snapshot.entity entity.name with
  | ok present =>
      rw [predecessor_of_known known, Option.some.injEq, Except.ok.injEq]
      have isKnown : ¬∀ other ∈ snapshot.entities, other.name ≠ entity.name := fun unknown =>
        unknown present (mem_of_entity known) (name_of_entity known)
      simp only [isKnown, false_and, or_false]
  | error error =>
      have unknown := (entity_eq_error.1 known).2
      rw [predecessor_of_unknown unknown, Option.bind_eq_some_iff]
      simp only [toOption_eq_some, reduceCtorEq, false_or]
      exact (and_iff_right unknown).symm

theorem predecessor_eq_none :
    snapshot.predecessor entity = none ↔
      ∀ other ∈ snapshot.entities,
        other.name ≠ entity.name ∧ entity.previousName ≠ some other.name := by
  cases known : snapshot.entity entity.name with
  | ok present =>
      rw [predecessor_of_known known]
      constructor
      · intro isNone
        cases isNone
      · intro unknown
        exact absurd (name_of_entity known) (unknown present (mem_of_entity known)).1
  | error error =>
      have unknown := (entity_eq_error.1 known).2
      rw [predecessor_of_unknown unknown, Option.bind_eq_none_iff]
      constructor
      · intro noneFormer other member
        refine ⟨unknown other member, ?_⟩
        intro isFormer
        have missing := noneFormer other.name isFormer
        cases lookup : snapshot.entity other.name with
        | ok former => simp [lookup, Except.toOption] at missing
        | error error => exact (entity_eq_error.1 lookup).2 other member rfl
      · intro bothUnknown name isFormer
        cases lookup : snapshot.entity name with
        | error error => rfl
        | ok former =>
            rw [← name_of_entity lookup] at isFormer
            exact absurd isFormer (bothUnknown former (mem_of_entity lookup)).2

theorem entity_of_predecessor (isPredecessor : snapshot.predecessor entity = some found) :
    snapshot.entity found.name = .ok found := by
  rcases predecessor_eq_some.1 isPredecessor with known | ⟨-, name, -, known⟩
  · rw [name_of_entity known, known]
  · rw [name_of_entity known, known]

end Snapshot

namespace Entity

/-- The predecessors of an entity from snapshot to snapshot, as far as each snapshot has one. -/
def ancestors (entity : Entity) : List (Version × Snapshot) → List (Version × Entity)
  | [] => []
  | (version, snapshot) :: earlier =>
      match snapshot.predecessor entity with
      | none => []
      | some predecessor => (version, predecessor) :: predecessor.ancestors earlier

theorem entity_of_mem_ancestors {entity ancestor : Entity} {version : Version}
    {earlier : List (Version × Snapshot)} (member : (version, ancestor) ∈ entity.ancestors earlier) :
    ∃ snapshot, (version, snapshot) ∈ earlier ∧ snapshot.entity ancestor.name = .ok ancestor := by
  induction earlier generalizing entity with
  | nil => simp [ancestors] at member
  | cons entry earlier ih =>
      obtain ⟨latest, snapshot⟩ := entry
      rw [ancestors] at member
      cases isPredecessor : snapshot.predecessor entity with
      | none => simp [isPredecessor] at member
      | some predecessor =>
          rw [isPredecessor] at member
          rcases List.mem_cons.1 member with same | further
          · obtain ⟨rfl, rfl⟩ := Prod.mk.inj same
            exact ⟨snapshot, List.mem_cons_self, Snapshot.entity_of_predecessor isPredecessor⟩
          · obtain ⟨older, listed, known⟩ := ih further
            exact ⟨older, List.mem_cons_of_mem _ listed, known⟩

end Entity

namespace Catalog

variable {catalog : Catalog} {entity ancestor : Entity} {current version : Version}
  {snapshot : Snapshot}

def snapshotsBefore (catalog : Catalog) (version : Version) : List (Version × Snapshot) :=
  (catalog.snapshots.filter fun entry => decide (entry.1 < version)).reverse

/-- An entity of the current snapshot and its ancestors, each under the version of its snapshot. -/
def ancestry (catalog : Catalog) (current : Version) (entity : Entity) : List (Version × Entity) :=
  (current, entity) :: entity.ancestors (catalog.snapshotsBefore current)

theorem entity_of_mem_ancestry {older : Snapshot}
    (distinct : (snapshot.entities.map (·.name)).Nodup)
    (found : catalog.snapshot current = .ok snapshot) (member : entity ∈ snapshot.entities)
    (reached : (version, ancestor) ∈ catalog.ancestry current entity)
    (olderFound : catalog.snapshot version = .ok older) :
    older.entity ancestor.name = .ok ancestor := by
  rcases List.mem_cons.1 reached with same | further
  · obtain ⟨rfl, rfl⟩ := Prod.mk.inj same
    obtain rfl := Except.ok.inj (found.symm.trans olderFound)
    exact Snapshot.entity_of_mem distinct member
  · obtain ⟨listed, isBefore, known⟩ := Entity.entity_of_mem_ancestors further
    have isListed : (version, listed) ∈ catalog.snapshots := by
      rw [snapshotsBefore, List.mem_reverse] at isBefore
      exact (List.mem_filter.1 isBefore).1
    obtain rfl := Except.ok.inj ((snapshot_of_mem isListed).symm.trans olderFound)
    exact known

end Catalog

namespace Shape

variable {shape : Shape} {entity found : Entity}

theorem entity_eq_ok (sameName : shape.entityName = entity.name) :
    shape.entity entity.previousName = .ok found ↔ shape.snapshot.predecessor entity = some found := by
  unfold Shape.entity Snapshot.predecessor
  rw [sameName]
  cases shape.snapshot.entity entity.name with
  | ok present => simp
  | error error =>
      cases (entity.previousName.bind fun name => (shape.snapshot.entity name).toOption) <;> simp

theorem entity_eq_unknown (sameName : shape.entityName = entity.name) :
    shape.entity entity.previousName =
        .error (.entity entity.name shape.label (.lookup (.unknownEntity entity.name))) ↔
      shape.snapshot.predecessor entity = none := by
  cases drawn : shape.entity entity.previousName with
  | ok found => simp [(entity_eq_ok sameName).1 drawn]
  | error error =>
      have isUnknown := entity_eq_error drawn
      rw [sameName] at isUnknown
      have noPredecessor : shape.snapshot.predecessor entity = none := by
        rw [Option.eq_none_iff_forall_ne_some]
        intro found isPredecessor
        rw [(entity_eq_ok sameName).2 isPredecessor] at drawn
        cases drawn
      simp [isUnknown, noPredecessor]

end Shape

/-- An ancestor that a shape has in its snapshot is the one from which it is drawn exactly when it bears
the present name of the entity, or the one former name that the entity keeps while no entity of the
snapshot bears the present one. Nothing is found exactly when the snapshot knows neither name. -/
theorem Catalog.drawn_from_ancestor_iff {catalog : Catalog} {current : Version}
    {checkpoints : List Version} {snapshot : Snapshot} {entity ancestor : Entity}
    {shapes : List Shape} {shape : Shape} (valid : catalog.validate = .ok ())
    (found : catalog.snapshot current = .ok snapshot) (persisted : entity ∈ snapshot.persisted)
    (resolved : catalog.shapes entity current checkpoints = .ok shapes) (isShape : shape ∈ shapes)
    (reached : (shape.drawnFrom, ancestor) ∈ catalog.ancestry current entity) :
    (shape.entity entity.previousName = .ok ancestor ↔
        ancestor.name = entity.name ∨
          entity.previousName = some ancestor.name ∧
            ∀ other ∈ shape.snapshot.entities, other.name ≠ entity.name) ∧
      (shape.entity entity.previousName =
          .error (.entity entity.name shape.label (.lookup (.unknownEntity entity.name))) ↔
        ∀ other ∈ shape.snapshot.entities,
          other.name ≠ entity.name ∧ entity.previousName ≠ some other.name) := by
  have sound : catalog.Sound := findings_isEmpty.1 (Findings.result_eq_ok.1 valid)
  obtain ⟨sameName, drawnFound⟩ := mem_shapes resolved isShape
  have known : shape.snapshot.entity ancestor.name = .ok ancestor :=
    entity_of_mem_ancestry (sound.snapshot found).distinctEntities found
      (List.mem_of_mem_filter persisted) reached drawnFound
  constructor
  · rw [Shape.entity_eq_ok sameName, Snapshot.predecessor_eq_some]
    constructor
    · intro drawn
      rcases drawn with present | ⟨unknown, name, isFormer, former⟩
      · exact Or.inl (Snapshot.name_of_entity present)
      · rw [← Snapshot.name_of_entity former] at isFormer
        exact Or.inr ⟨isFormer, unknown⟩
    · intro named
      rcases named with isPresent | ⟨isFormer, unknown⟩
      · rw [← isPresent]
        exact Or.inl known
      · exact Or.inr ⟨unknown, ancestor.name, isFormer, known⟩
  · rw [Shape.entity_eq_unknown sameName, Snapshot.predecessor_eq_none]

namespace Cinema

/-- Genres that were categories in the first version and kinds in the second. -/
def category : Entity := { genre with name := "Category", previousName := none, mappings := none }

def kind : Entity := { genre with name := "Kind" }

def laterGenre : Entity := { genre with previousName := some "Kind" }.withMapping ⟨3, 0, 0⟩

def renamedCatalog : Catalog where
  snapshots :=
    [(⟨1, 0, 0⟩, { entities := [category] }), (⟨2, 0, 0⟩, { entities := [kind] }),
      (⟨3, 0, 0⟩, { entities := [laterGenre] })]
  checkpoints := [⟨1, 0, 0⟩, ⟨2, 0, 0⟩]
  ascending := by unfold Ascending.Sorted; decide

/-- For the second version the first shape is drawn from the category, by its one former name. -/
theorem kind_drawn_from_category :
    renamedCatalog.validate = .ok () ∧
      ∃ shapes, renamedCatalog.shapes kind ⟨2, 0, 0⟩ renamedCatalog.checkpoints = .ok shapes ∧
        ∃ shape ∈ shapes, shape.label = ⟨1, 0, 0⟩ ∧
          (shape.drawnFrom, category) ∈ renamedCatalog.ancestry ⟨2, 0, 0⟩ kind ∧
          shape.entity kind.previousName = .ok category := by
  have valid : renamedCatalog.validate = .ok () := rfl
  have found : renamedCatalog.snapshot ⟨2, 0, 0⟩ = .ok { entities := [kind] } := rfl
  obtain ⟨shape, rest, resolved, label, drawnFrom, snapshot⟩ :
      ∃ shape rest,
        renamedCatalog.shapes kind ⟨2, 0, 0⟩ renamedCatalog.checkpoints = .ok (shape :: rest) ∧
          shape.label = ⟨1, 0, 0⟩ ∧ shape.drawnFrom = ⟨1, 0, 0⟩ ∧
          shape.snapshot = { entities := [category] } := ⟨_, _, rfl, rfl, rfl, rfl⟩
  have reached : (shape.drawnFrom, category) ∈ renamedCatalog.ancestry ⟨2, 0, 0⟩ kind := by
    rw [drawnFrom]
    exact List.mem_cons_of_mem _ List.mem_cons_self
  have unknown : ∀ other ∈ shape.snapshot.entities, other.name ≠ kind.name := by
    rw [snapshot]
    decide
  refine ⟨valid, shape :: rest, resolved, shape, List.mem_cons_self, label, reached, ?_⟩
  exact (Catalog.drawn_from_ancestor_iff valid found List.mem_cons_self resolved List.mem_cons_self
    reached).1.2 (Or.inr ⟨rfl, unknown⟩)

/-- For the third version the same shape is not drawn from the category, although that is the ancestor in
its snapshot: neither of the names that are tried is known there. -/
theorem genre_misses_category :
    renamedCatalog.validate = .ok () ∧
      (∃ snapshot, renamedCatalog.snapshot ⟨3, 0, 0⟩ = .ok snapshot ∧
        laterGenre ∈ snapshot.persisted) ∧
      (∃ shapes, renamedCatalog.shapes laterGenre ⟨3, 0, 0⟩ renamedCatalog.checkpoints = .ok shapes ∧
        ∃ shape ∈ shapes, shape.label = ⟨1, 0, 0⟩ ∧ shape.drawnFrom ≤ ⟨3, 0, 0⟩ ∧
          (shape.drawnFrom, category) ∈ renamedCatalog.ancestry ⟨3, 0, 0⟩ laterGenre ∧
          shape.entity laterGenre.previousName ≠ .ok category) ∧
      renamedCatalog.compile {} ⟨3, 0, 0⟩ =
        .error (.entity "Genre" ⟨1, 0, 0⟩ (.lookup (.unknownEntity "Genre"))) := by
  refine ⟨rfl, ⟨_, rfl, List.mem_cons_self⟩, ⟨_, rfl, _, List.mem_cons_self, rfl, ?_, ?_, ?_⟩, rfl⟩
  · decide
  · exact List.mem_cons_of_mem _ (List.mem_cons_of_mem _ List.mem_cons_self)
  · intro drawn
    cases drawn

end Cinema

end SchemaHistory
