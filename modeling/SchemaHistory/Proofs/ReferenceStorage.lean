import SchemaHistory.Proofs.DrawnEntity

/-!
References agree with the identifiers they lead to. A walk that finds an answer finds the same with fewer
names visited and more of its budget left; so every entity on the chain has the answer of the first, and so
has every property that identifies one of them.
-/

namespace SchemaHistory

open Traversal

set_option autoImplicit false

namespace Snapshot

variable {snapshot : Snapshot} {entity target member : Entity} {storage : StorageType} {steps : Nat}

section Walk

variable {start other : String} {budget larger : Nat} {visited fewer : List String}

/-- A walk with an answer has it from the entity, or goes on to another and has it there. -/
theorem walk_cases (walked : snapshot.walk start (budget + 1) visited entity = .ok storage) :
    entity.name ∉ visited ∧
      (snapshot.hop entity = .stop (.ok storage) ∨
        ∃ target, snapshot.hop entity = .follow target ∧
          snapshot.walk start budget (visited ++ [entity.name]) target = .ok storage) := by
  by_cases seen : entity.name ∈ visited
  · simp [walk_seen seen] at walked
  · refine ⟨seen, ?_⟩
    rw [walk, if_neg seen] at walked
    cases leads : snapshot.hop entity with
    | stop answer =>
        simp only [leads] at walked
        exact Or.inl (by rw [walked])
    | follow target =>
        simp only [leads] at walked
        exact Or.inr ⟨target, rfl, walked⟩

/-- The names visited and the budget can only stop a walk, not lead it elsewhere. -/
theorem walk_of_walk (walked : snapshot.walk start budget visited entity = .ok storage)
    (within : budget ≤ larger) (included : fewer ⊆ visited) :
    snapshot.walk other larger fewer entity = .ok storage := by
  induction budget generalizing entity larger visited fewer with
  | zero =>
      rw [walk] at walked
      split at walked <;> simp at walked
  | succ budget ih =>
      cases larger with
      | zero => exact absurd within (Nat.not_succ_le_zero budget)
      | succ larger =>
          rcases walk_cases walked with ⟨unseen, answer⟩
          have stillUnseen : entity.name ∉ fewer := fun isFewer => unseen (included isFewer)
          rw [walk, if_neg stillUnseen]
          rcases answer with stops | ⟨target, follows, onward⟩
          · simp only [stops]
          · simp only [follows]
            apply ih onward (Nat.le_of_succ_le_succ within)
            exact List.append_subset.2 ⟨List.subset_append_of_subset_left _ included,
              List.subset_append_right _ _⟩

end Walk

theorem answer_or_follow (resolved : snapshot.identifierStorage entity = .ok storage) :
    snapshot.hop entity = .stop (.ok storage) ∨
      ∃ target, snapshot.hop entity = .follow target ∧
        snapshot.identifierStorage target = .ok storage := by
  obtain ⟨budget, spent⟩ : ∃ budget, longestChain = budget + 1 := ⟨31, rfl⟩
  rw [identifierStorage, spent] at resolved
  rcases walk_cases resolved with ⟨-, stops | ⟨target, follows, onward⟩⟩
  · exact Or.inl stops
  · refine Or.inr ⟨target, follows, ?_⟩
    apply walk_of_walk onward _ (List.nil_subset _)
    rw [spent]
    exact Nat.le_succ budget

theorem identifierStorage_of_next (resolved : snapshot.identifierStorage entity = .ok storage)
    (leads : snapshot.next entity = some target) :
    snapshot.identifierStorage target = .ok storage := by
  rcases snapshot.hop_cases entity with ⟨followed, follows, leadsTo⟩ | ⟨answer, -, isLast, -⟩
  · obtain rfl := Option.some.inj (leads.symm.trans leadsTo)
    rcases answer_or_follow resolved with stops | ⟨same, followsSame, answers⟩
    · simp [follows] at stops
    · obtain rfl := Hop.follow.inj (follows.symm.trans followsSame)
      exact answers
  · simp [leads] at isLast

theorem identifierStorage_of_reached (resolved : snapshot.identifierStorage entity = .ok storage)
    (reaches : snapshot.reached entity steps = some member) :
    snapshot.identifierStorage member = .ok storage := by
  induction steps generalizing member with
  | zero =>
      obtain rfl := Option.some.inj reaches
      exact resolved
  | succ steps ih =>
      obtain ⟨middle, reachesMiddle, leads⟩ := Option.bind_eq_some_iff.1 reaches
      exact identifierStorage_of_next (ih reachesMiddle) leads

theorem storage_of_stop {type : PropertyType}
    (stops : snapshot.propertyHop entity type = .stop (.ok storage)) :
    snapshot.storage type = .ok storage := by
  unfold propertyHop at stops
  split at stops
  · exact Hop.stop.inj stops
  · split at stops <;> simp at stops
  all_goals simp at stops

theorem storage_of_follow {type : PropertyType}
    (follows : snapshot.propertyHop entity type = .follow target) :
    snapshot.storage type = snapshot.identifierStorage target := by
  unfold propertyHop at follows
  split at follows
  · simp at follows
  · split at follows
    · rename_i known
      obtain rfl := Hop.follow.inj follows
      simp only [Snapshot.storage, known]
    · simp at follows
  all_goals simp at follows

theorem storage_of_identifier {name : String}
    (resolved : snapshot.identifierStorage member = .ok storage)
    (identifier : member.identifier = .property name) :
    ∃ property, member.property name = .ok property ∧
      snapshot.storage property.type = .ok storage := by
  have answer := answer_or_follow resolved
  simp only [hop, identifier] at answer
  cases found : member.property name with
  | error error => simp [found] at answer
  | ok property =>
      simp only [found] at answer
      refine ⟨property, rfl, ?_⟩
      rcases answer with stops | ⟨target, follows, answers⟩
      · exact storage_of_stop stops
      · rw [storage_of_follow follows]
        exact answers

end Snapshot

theorem Property.value_mem_attributes (property : Property) (storage : StorageType)
    (mode : NamingMode) :
    ∃ column ∈ property.attributes storage mode,
      column.name = "_" ++ mode.propertyName property.name ∧ column.storage = storage := by
  unfold attributes
  split
  · exact ⟨_, List.mem_append_left _ List.mem_cons_self, rfl, rfl⟩
  · exact ⟨_, List.mem_append_left _ List.mem_cons_self, rfl, rfl⟩

namespace Shape

variable {shape : Shape} {formerName : Option String} {mode : NamingMode} {entity : Entity}
  {block : Block} {storage : StorageType}

theorem identifier_of_block (drawn : shape.block formerName mode = .ok block)
    (found : shape.entity formerName = .ok entity)
    (resolved : shape.snapshot.identifierStorage entity = .ok storage) :
    ∃ column rest, block.attributes = column :: rest ∧ column.name = "_identifier" ∧
      column.storage = storage := by
  rcases block_eq_ok.1 drawn with ⟨drawnEntity, identifier, groups, isFound, isResolved, -, rfl⟩
  obtain rfl := Except.ok.inj (found.symm.trans isFound)
  rw [identifierStorage_eq_ok, resolved] at isResolved
  obtain rfl := Except.ok.inj isResolved
  exact ⟨_, _, rfl, rfl, rfl⟩

theorem attributes_of_block {property : Property} (drawn : shape.block formerName mode = .ok block)
    (found : shape.entity formerName = .ok entity) (used : property ∈ entity.usedProperties)
    (typed : shape.snapshot.storage property.type = .ok storage) :
    property.attributes storage mode ⊆ block.attributes := by
  rcases block_eq_ok.1 drawn with ⟨drawnEntity, identifier, groups, isFound, -, grouped, rfl⟩
  obtain rfl := Except.ok.inj (found.symm.trans isFound)
  obtain ⟨group, isGroup, hasGroup⟩ := exists_item_of_result grouped.flip used
  obtain ⟨ownStorage, isStorage, rfl⟩ := propertyAttributes_eq_ok.1 hasGroup
  obtain rfl := Except.ok.inj (typed.symm.trans isStorage)
  intro column member
  exact List.mem_append_right _ (List.mem_flatten_of_mem isGroup member)

end Shape

namespace Snapshot

/-- If the identifier of an entity is stored in a type, the identifiers of all entities on its chain are
stored in that type, and so are the properties that identify them. In the blocks drawn from these
entities, the attribute of the identifier and that of the identifying property have this type. -/
theorem storage_along_chain (snapshot : Snapshot) (entity : Entity) (storage : StorageType)
    (resolved : snapshot.identifierStorage entity = .ok storage) (steps : Nat) (member : Entity)
    (reaches : snapshot.reached entity steps = some member) :
    snapshot.identifierStorage member = .ok storage ∧
      (∀ name, member.identifier = .property name →
        ∃ property, member.property name = .ok property ∧
          snapshot.storage property.type = .ok storage) ∧
      ∀ (shape : Shape) (formerName : Option String) (mode : NamingMode) (block : Block),
        shape.snapshot = snapshot → shape.entity formerName = .ok member →
        shape.block formerName mode = .ok block →
        (∃ column rest, block.attributes = column :: rest ∧ column.name = "_identifier" ∧
            column.storage = storage) ∧
          ∀ name property, member.identifier = .property name →
            member.property name = .ok property → property.isUnused = false →
            ∃ column ∈ block.attributes, column ∈ property.attributes storage mode ∧
              column.name = "_" ++ mode.propertyName property.name ∧ column.storage = storage := by
  have answers := identifierStorage_of_reached resolved reaches
  refine ⟨answers, fun name => storage_of_identifier answers, ?_⟩
  intro shape formerName mode block sameSnapshot found drawn
  subst sameSnapshot
  refine ⟨Shape.identifier_of_block drawn found answers, ?_⟩
  intro name property identifier isProperty isUsed
  obtain ⟨identifying, isIdentifying, typed⟩ := storage_of_identifier answers identifier
  obtain rfl := Except.ok.inj (isProperty.symm.trans isIdentifying)
  have used : property ∈ member.usedProperties :=
    List.mem_filter.2 ⟨Entity.mem_of_property isProperty, by simp [isUsed]⟩
  obtain ⟨column, isColumn, named, stored⟩ := property.value_mem_attributes storage mode
  exact ⟨column, Shape.attributes_of_block drawn found used typed isColumn, isColumn, named, stored⟩

end Snapshot

namespace Cinema

def booking : Entity where
  name := "Booking"
  identifier := .property "row"
  addedAt := some ⟨1, 0, 0⟩
  properties := [{ name := "row", type := .toOne "Row" }]

def row : Entity where
  name := "Row"
  identifier := .property "hall"
  addedAt := some ⟨1, 0, 0⟩
  properties := [{ name := "number", type := .scalar .int }, { name := "hall", type := .toOne "Hall" }]

def hall : Entity where
  name := "Hall"
  identifier := .scalar .url
  addedAt := some ⟨1, 0, 0⟩

def seating : Snapshot where
  entities := [booking, row, hall]

def rowShape : Shape where
  entityName := "Row"
  label := ⟨1, 0, 0⟩
  drawnFrom := ⟨1, 0, 0⟩
  snapshot := seating

/-- A booking is stored as its row, and that as its hall, whose identifier is a text. -/
theorem seating_storage :
    seating.identifierStorage booking = .ok .string ∧ seating.reached booking 1 = some row ∧
      seating.reached booking 2 = some hall ∧ seating.identifierStorage hall = .ok .string ∧
      (∃ property, row.property "hall" = .ok property ∧
        seating.storage property.type = .ok .string) ∧
      ∃ block, rowShape.block none .legacy = .ok block ∧
        (∃ column rest, block.attributes = column :: rest ∧ column.name = "_identifier" ∧
          column.storage = .string) ∧
        ∃ column ∈ block.attributes, column.name = "_hall" ∧ column.storage = .string := by
  have resolved : seating.identifierStorage booking = .ok .string := rfl
  have reachesRow : seating.reached booking 1 = some row := rfl
  have reachesHall : seating.reached booking 2 = some hall := rfl
  obtain ⟨answers, -, -⟩ := seating.storage_along_chain booking .string resolved 2 hall reachesHall
  obtain ⟨-, identified, inBlocks⟩ :=
    seating.storage_along_chain booking .string resolved 1 row reachesRow
  obtain ⟨block, drawn⟩ : ∃ block, rowShape.block none .legacy = .ok block := ⟨_, rfl⟩
  obtain ⟨first, others⟩ := inBlocks rowShape none .legacy block rfl rfl drawn
  obtain ⟨column, member, -, named, stored⟩ := others "hall" _ rfl rfl rfl
  exact ⟨resolved, reachesRow, reachesHall, answers, identified "hall" rfl, block, drawn, first, column,
    member, named, stored⟩

end Cinema

end SchemaHistory
