import SchemaHistory.Proofs.IdentifierChain

/-!
Snapshots that grow. What is appended to the lists of a snapshot stands behind what was there, so it is
found only under a name that nothing bore before. An identifier is followed as before up to the first
entity that is missed; therefore a storage type stays as it is, and so does every failure other than
that of a missing name, with the entity and the chain that it reports.
-/

namespace SchemaHistory

set_option autoImplicit false

/-- A storage type, or a failure that is not for want of an entity or a subtype. -/
def Settled (result : Except TypeError StorageType) : Prop :=
  ∀ name, result ≠ .error (.lookup (.unknownEntity name)) ∧
    result ≠ .error (.lookup (.unknownSubtype name))

/-- If the result is for want of an entity or a subtype, it is none of these. -/
structure Unaided (entities : List Entity) (subtypes : List SubtypeDefinition)
    (result : Except TypeError StorageType) : Prop where
  entity : ∀ name, result = .error (.lookup (.unknownEntity name)) →
    ∀ added ∈ entities, added.name ≠ name
  subtype : ∀ name, result = .error (.lookup (.unknownSubtype name)) →
    ∀ added ∈ subtypes, added.name ≠ name

theorem Settled.unaided {result : Except TypeError StorageType} (settled : Settled result)
    (entities : List Entity) (subtypes : List SubtypeDefinition) :
    Unaided entities subtypes result where
  entity := by
    intro name missing
    exact absurd missing (settled name).1
  subtype := by
    intro name missing
    exact absurd missing (settled name).2

namespace Snapshot

def grown (snapshot : Snapshot) (entities : List Entity) (subtypes : List SubtypeDefinition) :
    Snapshot where
  entities := snapshot.entities ++ entities
  subtypes := snapshot.subtypes ++ subtypes

variable {snapshot : Snapshot} {entities : List Entity} {subtypes : List SubtypeDefinition}
  {name : String}

theorem entity_grown
    (unaided : snapshot.entity name = .error (.unknownEntity name) →
      ∀ added ∈ entities, added.name ≠ name) :
    (snapshot.grown entities subtypes).entity name = snapshot.entity name := by
  have sameFound : (snapshot.entities ++ entities).find? (·.name == name) =
      snapshot.entities.find? (·.name == name) := by
    apply find_named_append Entity.name
    intro notFound
    apply unaided
    simp only [Snapshot.entity, notFound]
  simp only [Snapshot.entity, grown, sameFound]

theorem subtype_grown
    (unaided : snapshot.subtype name = .error (.unknownSubtype name) →
      ∀ added ∈ subtypes, added.name ≠ name) :
    (snapshot.grown entities subtypes).subtype name = snapshot.subtype name := by
  have sameFound : (snapshot.subtypes ++ subtypes).find? (·.name == name) =
      snapshot.subtypes.find? (·.name == name) := by
    apply find_named_append SubtypeDefinition.name
    intro notFound
    apply unaided
    simp only [Snapshot.subtype, notFound]
  simp only [Snapshot.subtype, grown, sameFound]

theorem propertyHop_grown {entity : Entity} {type : PropertyType}
    (unaided : ∀ name, snapshot.propertyHop entity type =
        .stop (.error (.lookup (.unknownEntity name))) →
      ∀ added ∈ entities, added.name ≠ name) :
    (snapshot.grown entities subtypes).propertyHop entity type =
      snapshot.propertyHop entity type := by
  cases type with
  | scalar type => rfl
  | array element => rfl
  | subtype name => rfl
  | relationship relationship =>
      obtain ⟨target, association⟩ := relationship
      cases association with
      | toMany => rfl
      | toOne =>
          have sameTarget :
              (snapshot.grown entities subtypes).entity target = snapshot.entity target := by
            apply entity_grown
            intro missing
            apply unaided target
            simp only [propertyHop, missing]
          simp only [propertyHop, sameTarget]

theorem hop_grown {entity : Entity}
    (unaided : ∀ name, snapshot.hop entity = .stop (.error (.lookup (.unknownEntity name))) →
      ∀ added ∈ entities, added.name ≠ name) :
    (snapshot.grown entities subtypes).hop entity = snapshot.hop entity := by
  cases identifier : entity.identifier with
  | void => simp only [hop, identifier]
  | scalar type => simp only [hop, identifier]
  | relationships type targets => simp only [hop, identifier]
  | property name =>
      simp only [hop, identifier] at unaided ⊢
      cases found : entity.property name with
      | error error => rfl
      | ok property =>
          simp only [found] at unaided ⊢
          exact propertyHop_grown unaided

theorem walk_grown {start : String} {budget : Nat} {visited : List String} {entity : Entity}
    (unaided : ∀ name, snapshot.walk start budget visited entity =
        .error (.lookup (.unknownEntity name)) →
      ∀ added ∈ entities, added.name ≠ name) :
    (snapshot.grown entities subtypes).walk start budget visited entity =
      snapshot.walk start budget visited entity := by
  induction budget generalizing visited entity with
  | zero => rfl
  | succ budget ih =>
      rw [walk] at unaided ⊢
      rw [walk]
      by_cases seen : entity.name ∈ visited
      · rw [if_pos seen, if_pos seen]
      · rw [if_neg seen] at unaided ⊢
        rw [if_neg seen]
        have sameHop : (snapshot.grown entities subtypes).hop entity = snapshot.hop entity := by
          apply hop_grown
          intro name stops
          apply unaided name
          rw [stops]
        rw [sameHop]
        cases leads : snapshot.hop entity with
        | stop answer => rfl
        | follow target =>
            rw [leads] at unaided
            exact ih unaided

theorem identifierStorage_grown {entity : Entity}
    (unaided : Unaided entities subtypes (snapshot.identifierStorage entity)) :
    (snapshot.grown entities subtypes).identifierStorage entity =
      snapshot.identifierStorage entity :=
  walk_grown unaided.entity

theorem storage_grown {type : PropertyType}
    (unaided : Unaided entities subtypes (snapshot.storage type)) :
    (snapshot.grown entities subtypes).storage type = snapshot.storage type := by
  cases type with
  | scalar type => rfl
  | array element => rfl
  | subtype name =>
      have sameSubtype : (snapshot.grown entities subtypes).subtype name = snapshot.subtype name := by
        apply subtype_grown
        intro missing
        apply unaided.subtype name
        simp only [storage, missing]
      simp only [storage, sameSubtype]
  | relationship relationship =>
      obtain ⟨target, association⟩ := relationship
      cases association with
      | toMany => rfl
      | toOne =>
          have sameTarget :
              (snapshot.grown entities subtypes).entity target = snapshot.entity target := by
            apply entity_grown
            intro missing
            apply unaided.entity target
            simp only [storage, missing]
          simp only [storage, sameTarget] at unaided ⊢
          cases found : snapshot.entity target with
          | error error => rfl
          | ok entity =>
              simp only [found] at unaided ⊢
              exact identifierStorage_grown unaided

/-- Entities and subtypes appended to a snapshot, whatever their names, leave each storage type and each
failure as it is, unless the failure is for want of an entity or a subtype; and that one stays too where
none of the appended ones has the name that was missed. This holds of the types of properties and of the
identifiers of entities, inside the snapshot or not. -/
theorem settled_while_growing (snapshot : Snapshot) (entities : List Entity)
    (subtypes : List SubtypeDefinition) :
    (∀ type, Settled (snapshot.storage type) →
        (snapshot.grown entities subtypes).storage type = snapshot.storage type) ∧
      (∀ entity, Settled (snapshot.identifierStorage entity) →
        (snapshot.grown entities subtypes).identifierStorage entity =
          snapshot.identifierStorage entity) ∧
      (∀ type, Unaided entities subtypes (snapshot.storage type) →
        (snapshot.grown entities subtypes).storage type = snapshot.storage type) ∧
      ∀ entity, Unaided entities subtypes (snapshot.identifierStorage entity) →
        (snapshot.grown entities subtypes).identifierStorage entity =
          snapshot.identifierStorage entity := by
  refine ⟨?_, ?_, fun type => storage_grown, fun entity => identifierStorage_grown⟩
  · intro type settled
    exact storage_grown (settled.unaided entities subtypes)
  · intro entity settled
    exact identifierStorage_grown (settled.unaided entities subtypes)

end Snapshot

namespace Rungs

def landing : Entity where
  name := "Right"
  identifier := .scalar .int

/-- The loop stays closed, and what is missed above it is not the landing. Of a name that nothing bore
before, the same entity does end a chain. -/
theorem loop_stays_closed :
    loop.storage (.toOne "Tail") =
        .error (.identifierCycle "Tail" ["Tail", "Left", "Right", "Left"]) ∧
      Settled (loop.storage (.toOne "Tail")) ∧
      (loop.grown [landing] []).storage (.toOne "Tail") = loop.storage (.toOne "Tail") ∧
      Settled (loop.identifierStorage (rung "Right" "Left")) ∧
      (loop.grown [landing] []).identifierStorage (rung "Right" "Left") =
        loop.identifierStorage (rung "Right" "Left") ∧
      Unaided [landing] [] (loop.storage (.toOne "Attic")) ∧
      (loop.grown [landing] []).storage (.toOne "Attic") =
        .error (.lookup (.unknownEntity "Attic")) ∧
      Unaided [landing] [] (loop.identifierStorage (rung "Stairs" "Attic")) ∧
      (loop.grown [landing] []).identifierStorage (rung "Stairs" "Attic") =
        .error (.lookup (.unknownEntity "Attic")) ∧
      (loop.grown [{ landing with name := "Attic" }] []).identifierStorage (rung "Stairs" "Attic") =
        .ok .integer64 := by
  obtain ⟨types, identifiers, missedTypes, missedIdentifiers⟩ :=
    loop.settled_while_growing [landing] []
  have cyclic : loop.storage (.toOne "Tail") =
      .error (.identifierCycle "Tail" ["Tail", "Left", "Right", "Left"]) := rfl
  have cyclicToo : loop.identifierStorage (rung "Right" "Left") =
      .error (.identifierCycle "Right" ["Right", "Left", "Right"]) := rfl
  have settled : Settled (loop.storage (.toOne "Tail")) := by
    rw [cyclic]
    simp [Settled]
  have settledToo : Settled (loop.identifierStorage (rung "Right" "Left")) := by
    rw [cyclicToo]
    simp [Settled]
  have missed : loop.storage (.toOne "Attic") = .error (.lookup (.unknownEntity "Attic")) := rfl
  have missedToo : loop.identifierStorage (rung "Stairs" "Attic") =
      .error (.lookup (.unknownEntity "Attic")) := rfl
  have unaided : Unaided [landing] [] (Except.error (.lookup (.unknownEntity "Attic"))) := by
    constructor <;> simp [landing]
  refine ⟨cyclic, settled, types _ settled, settledToo, identifiers _ settledToo, missed ▸ unaided, ?_,
    missedToo ▸ unaided, ?_, rfl⟩
  · rw [missedTypes _ (missed ▸ unaided), missed]
  · rw [missedIdentifiers _ (missedToo ▸ unaided), missedToo]

end Rungs

end SchemaHistory
