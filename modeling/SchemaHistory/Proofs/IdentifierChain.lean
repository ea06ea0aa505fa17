import Mathlib.Data.List.Dedup
import Mathlib.Data.List.Perm.Subperm
import Mathlib.Data.Nat.Find
import SchemaHistory.Proofs.Lookup
import SchemaHistory.Storage

/-!
The identifier of an entity as the end of a chain of references. The chain itself knows no bound and
no visited names: it goes on while the identifying property refers to an entity that the snapshot
has. The guarded walk gives what stands at the end of the chain when that is near; it reports a cycle
when a name comes back, and a chain too deep when it is longer than the bound without that.
-/

namespace SchemaHistory

set_option autoImplicit false

def PropertyType.target? : PropertyType → Option String
  | .relationship ⟨target, .toOne⟩ => some target
  | _ => none

namespace Snapshot

variable {snapshot : Snapshot} {entity last : Entity} {steps : Nat}

def next (snapshot : Snapshot) (entity : Entity) : Option Entity :=
  match entity.identifier with
  | .property name => do
      let property ← (entity.property name).toOption
      let target ← property.type.target?
      (snapshot.entity target).toOption
  | _ => none

/-- The entity at the end of so many references, while there is one. -/
def reached (snapshot : Snapshot) (entity : Entity) : Nat → Option Entity
  | 0 => some entity
  | steps + 1 => (snapshot.reached entity steps).bind snapshot.next

def namesBefore (snapshot : Snapshot) (entity : Entity) (steps : Nat) : List String :=
  (List.range steps).filterMap fun step => (snapshot.reached entity step).map (·.name)

/-- After so many steps the chain is at a name that it has met before. -/
def Returns (snapshot : Snapshot) (entity : Entity) (steps : Nat) : Prop :=
  ∃ last ∈ snapshot.reached entity steps, last.name ∈ snapshot.namesBefore entity steps

instance : Decidable (snapshot.Returns entity steps) :=
  inferInstanceAs (Decidable (∃ last ∈ snapshot.reached entity steps, _))

/-- The chain ends at an entity with this answer. -/
inductive Stops (snapshot : Snapshot) (entity : Entity) : Except TypeError StorageType → Prop where
  | void (identifier : entity.identifier = .void) : Stops snapshot entity (.ok .integer64)
  | scalar {type : ScalarType} (identifier : entity.identifier = .scalar type) :
      Stops snapshot entity (.ok type.storage)
  | relationships {type : ScalarType} {entities : List String}
      (identifier : entity.identifier = .relationships type entities) :
      Stops snapshot entity (.ok type.storage)
  | scalarProperty {name : String} {property : Property} {type : ScalarType}
      (identifier : entity.identifier = .property name)
      (found : entity.property name = .ok property) (isScalar : property.type = .scalar type) :
      Stops snapshot entity (.ok type.storage)
  | unknownProperty {name : String} (identifier : entity.identifier = .property name)
      (unknown : ∀ property ∈ entity.properties, property.name ≠ name) :
      Stops snapshot entity (.error (.lookup (.unknownProperty entity.name name)))
  | unknownEntity {name target : String} {property : Property}
      (identifier : entity.identifier = .property name)
      (found : entity.property name = .ok property)
      (isReference : property.type = .relationship ⟨target, .toOne⟩)
      (unknown : ∀ candidate ∈ snapshot.entities, candidate.name ≠ target) :
      Stops snapshot entity (.error (.lookup (.unknownEntity target)))
  | unstorable {name : String} {property : Property}
      (identifier : entity.identifier = .property name)
      (found : entity.property name = .ok property)
      (notScalar : ∀ type, property.type ≠ .scalar type)
      (notReference : ∀ target, property.type ≠ .relationship ⟨target, .toOne⟩) :
      Stops snapshot entity (.error (.unstorableIdentifier entity.name))

theorem propertyHop_cases (snapshot : Snapshot) {name : String} {property : Property}
    (identifier : entity.identifier = .property name)
    (found : entity.property name = .ok property) :
    (∃ target, snapshot.propertyHop entity property.type = .follow target ∧
        (property.type.target?.bind fun name => (snapshot.entity name).toOption) = some target) ∨
      ∃ answer, snapshot.propertyHop entity property.type = .stop answer ∧
        (property.type.target?.bind fun name => (snapshot.entity name).toOption) = none ∧
        snapshot.Stops entity answer := by
  have unstorable (notScalar : ∀ type, property.type ≠ .scalar type)
      (notReference : ∀ target, property.type ≠ .relationship ⟨target, .toOne⟩) :
      snapshot.Stops entity (.error (.unstorableIdentifier entity.name)) :=
    .unstorable identifier found notScalar notReference
  cases isType : property.type with
  | scalar type => exact Or.inr ⟨_, rfl, rfl, .scalarProperty identifier found isType⟩
  | array element =>
      exact Or.inr ⟨_, rfl, rfl, unstorable (by simp [isType]) (by simp [isType])⟩
  | subtype subtype =>
      exact Or.inr ⟨_, rfl, rfl, unstorable (by simp [isType]) (by simp [isType])⟩
  | relationship relationship =>
      obtain ⟨target, association⟩ := relationship
      cases association with
      | toMany => exact Or.inr ⟨_, rfl, rfl, unstorable (by simp [isType]) (by simp [isType])⟩
      | toOne =>
          simp only [propertyHop, PropertyType.target?, Option.bind_some]
          cases known : snapshot.entity target with
          | ok candidate => exact Or.inl ⟨candidate, rfl, rfl⟩
          | error error =>
              obtain ⟨rfl, unknown⟩ := entity_eq_error.1 known
              exact Or.inr ⟨_, rfl, rfl, .unknownEntity identifier found isType unknown⟩

theorem hop_cases (snapshot : Snapshot) (entity : Entity) :
    (∃ target, snapshot.hop entity = .follow target ∧ snapshot.next entity = some target) ∨
      ∃ answer, snapshot.hop entity = .stop answer ∧ snapshot.next entity = none ∧
        snapshot.Stops entity answer := by
  cases identifier : entity.identifier with
  | void => exact Or.inr ⟨_, by rw [hop, identifier], by rw [next, identifier], .void identifier⟩
  | scalar type =>
      exact Or.inr ⟨_, by rw [hop, identifier], by rw [next, identifier], .scalar identifier⟩
  | relationships type entities =>
      exact Or.inr ⟨_, by rw [hop, identifier], by rw [next, identifier], .relationships identifier⟩
  | property name =>
      simp only [hop, next, identifier]
      cases found : entity.property name with
      | error error =>
          obtain ⟨rfl, unknown⟩ := Entity.property_eq_error.1 found
          exact Or.inr ⟨_, rfl, rfl, .unknownProperty identifier unknown⟩
      | ok property => exact propertyHop_cases snapshot identifier found

theorem Stops.hop_eq {answer : Except TypeError StorageType} (stops : snapshot.Stops entity answer) :
    snapshot.hop entity = .stop answer := by
  cases stops with
  | void identifier => rw [hop, identifier]
  | scalar identifier => rw [hop, identifier]
  | relationships identifier => rw [hop, identifier]
  | scalarProperty identifier found isScalar => simp [hop, identifier, found, isScalar, propertyHop]
  | unknownProperty identifier unknown =>
      simp [hop, identifier, Entity.property_eq_error.2 ⟨rfl, unknown⟩]
  | unknownEntity identifier found isReference unknown =>
      simp [hop, identifier, found, isReference, propertyHop, entity_eq_error.2 ⟨rfl, unknown⟩]
  | @unstorable name property identifier found notScalar notReference =>
      simp only [hop, identifier, found, propertyHop]
      split <;> simp_all

theorem Stops.unique {answer other : Except TypeError StorageType}
    (stops : snapshot.Stops entity answer) (alsoStops : snapshot.Stops entity other) :
    answer = other :=
  Hop.stop.inj (stops.hop_eq.symm.trans alsoStops.hop_eq)

theorem Stops.not_guard {answer : Except TypeError StorageType}
    (stops : snapshot.Stops entity answer) (start : String) (chain : List String) :
    answer ≠ .error (.identifierCycle start chain) ∧ answer ≠ .error (.identifierTooDeep start) := by
  cases stops <;> simp

theorem reached_add (first second : Nat) :
    snapshot.reached entity (first + second) =
      (snapshot.reached entity first).bind fun middle => snapshot.reached middle second := by
  induction second with
  | zero => simp [reached]
  | succ second ih =>
      rw [← Nat.add_assoc, reached, ih, Option.bind_assoc]
      rfl

theorem reached_of_le {fewer : Nat} (within : fewer ≤ steps)
    (reaches : (snapshot.reached entity steps).isSome) :
    (snapshot.reached entity fewer).isSome := by
  obtain ⟨rest, rfl⟩ := Nat.exists_eq_add_of_le within
  rw [reached_add] at reaches
  cases start : snapshot.reached entity fewer with
  | none => simp [start] at reaches
  | some middle => rfl

theorem last_of_reached_none (stopped : snapshot.reached entity steps = none) :
    ∃ fewer < steps, ∃ last, snapshot.reached entity fewer = some last ∧
      snapshot.reached entity (fewer + 1) = none := by
  induction steps with
  | zero => simp [reached] at stopped
  | succ steps ih =>
      cases before : snapshot.reached entity steps with
      | none =>
          obtain ⟨fewer, less, found⟩ := ih before
          exact ⟨fewer, Nat.lt_succ_of_lt less, found⟩
      | some last => exact ⟨steps, Nat.lt_succ_self steps, last, before, stopped⟩

theorem namesBefore_succ (reaches : snapshot.reached entity steps = some last) :
    snapshot.namesBefore entity (steps + 1) = snapshot.namesBefore entity steps ++ [last.name] := by
  simp [namesBefore, List.range_succ, reaches]

theorem mem_namesBefore {name : String} :
    name ∈ snapshot.namesBefore entity steps ↔
      ∃ fewer < steps, ∃ earlier, snapshot.reached entity fewer = some earlier ∧
        earlier.name = name := by
  simp [namesBefore]

theorem length_namesBefore (reaches : (snapshot.reached entity steps).isSome) :
    (snapshot.namesBefore entity (steps + 1)).length = steps + 1 := by
  induction steps with
  | zero => simp [reached, namesBefore]
  | succ steps ih =>
      obtain ⟨last, found⟩ := Option.isSome_iff_exists.1 reaches
      rw [namesBefore_succ found, List.length_append, ih (reached_of_le (Nat.le_succ steps) reaches)]
      rfl

theorem nodup_namesBefore (fresh : ∀ fewer < steps, ¬snapshot.Returns entity fewer) :
    (snapshot.namesBefore entity steps).Nodup := by
  induction steps with
  | zero => simp [namesBefore]
  | succ steps ih =>
      have before := ih fun fewer less => fresh fewer (Nat.lt_succ_of_lt less)
      cases found : snapshot.reached entity steps with
      | none => simpa [namesBefore, List.range_succ, found] using before
      | some last =>
          rw [namesBefore_succ found]
          refine List.nodup_append.2 ⟨before, by simp, ?_⟩
          intro name member other isLast same
          obtain rfl := List.mem_singleton.1 isLast
          exact fresh steps (Nat.lt_succ_self steps) ⟨last, found, same ▸ member⟩

theorem walk_seen {start : String} {budget : Nat} {visited : List String}
    (seen : entity.name ∈ visited) :
    snapshot.walk start budget visited entity =
      .error (.identifierCycle start (visited ++ [entity.name])) := by
  cases budget <;> simp [walk, seen]

/-- As long as no name comes back, the walk is on the chain, with the names before it visited and one
entity of its budget spent on each step. -/
theorem walk_of_fresh (budget : Nat) (fresh : ∀ fewer < steps, ¬snapshot.Returns entity fewer)
    (reaches : snapshot.reached entity steps = some last) :
    snapshot.walk entity.name (budget + steps) [] entity =
      snapshot.walk entity.name budget (snapshot.namesBefore entity steps) last := by
  induction steps generalizing budget last with
  | zero =>
      obtain rfl := Option.some.inj reaches
      rfl
  | succ steps ih =>
      have within := reached_of_le (Nat.le_succ steps) (Option.isSome_iff_exists.2 ⟨last, reaches⟩)
      obtain ⟨middle, found⟩ := Option.isSome_iff_exists.1 within
      have leads : snapshot.next middle = some last := by
        simpa [reached, found] using reaches
      have unseen : middle.name ∉ snapshot.namesBefore entity steps := fun seen =>
        fresh steps (Nat.lt_succ_self steps) ⟨middle, found, seen⟩
      -- One entity of the budget is left for the hop from `middle`, which cannot be a stop.
      have before := ih (budget + 1) (fun fewer less => fresh fewer (Nat.lt_succ_of_lt less)) found
      rw [show budget + (steps + 1) = budget + 1 + steps by omega, before, namesBefore_succ found,
        walk, if_neg unseen]
      rcases snapshot.hop_cases middle with ⟨target, follows, leadsTo⟩ | ⟨answer, -, isLast, -⟩
      · obtain rfl := Option.some.inj (leads.symm.trans leadsTo)
        simp only [follows]
      · simp [isLast] at leads

theorem cycle_of_returns (within : steps ≤ longestChain) (returns : snapshot.Returns entity steps)
    (first : ∀ fewer < steps, ¬snapshot.Returns entity fewer) :
    snapshot.identifierStorage entity =
      .error (.identifierCycle entity.name (snapshot.namesBefore entity (steps + 1))) := by
  obtain ⟨last, reaches, seen⟩ := returns
  obtain ⟨budget, spent⟩ := Nat.exists_eq_add_of_le' within
  rw [identifierStorage, spent, walk_of_fresh budget first reaches, walk_seen seen,
    namesBefore_succ reaches]

theorem tooDeep_of_fresh (fresh : ∀ fewer ≤ longestChain, ¬snapshot.Returns entity fewer)
    (reaches : (snapshot.reached entity longestChain).isSome) :
    snapshot.identifierStorage entity = .error (.identifierTooDeep entity.name) := by
  obtain ⟨last, found⟩ := Option.isSome_iff_exists.1 reaches
  have unseen : last.name ∉ snapshot.namesBefore entity longestChain := fun seen =>
    fresh longestChain (Nat.le_refl _) ⟨last, found, seen⟩
  have walked := walk_of_fresh 0 (fun fewer less => fresh fewer (Nat.le_of_lt less)) found
  rw [Nat.zero_add] at walked
  rw [identifierStorage, walked, walk, if_neg unseen]

theorem stops_of_fresh (fresh : ∀ fewer ≤ longestChain, ¬snapshot.Returns entity fewer)
    (stopped : snapshot.reached entity longestChain = none) :
    ∃ steps < longestChain, ∃ last, snapshot.reached entity steps = some last ∧
      snapshot.reached entity (steps + 1) = none ∧
      snapshot.Stops last (snapshot.identifierStorage entity) := by
  obtain ⟨steps, less, last, found, isLast⟩ := last_of_reached_none stopped
  refine ⟨steps, less, last, found, isLast, ?_⟩
  have unseen : last.name ∉ snapshot.namesBefore entity steps := fun seen =>
    fresh steps (Nat.le_of_lt less) ⟨last, found, seen⟩
  obtain ⟨budget, spent⟩ := Nat.exists_eq_add_of_le' (Nat.succ_le_of_lt less)
  have walked := walk_of_fresh (budget + 1)
    (fun fewer earlier => fresh fewer (Nat.le_of_lt (Nat.lt_trans earlier less))) found
  rw [identifierStorage, show longestChain = budget + 1 + steps by omega, walked, walk,
    if_neg unseen]
  rcases snapshot.hop_cases last with ⟨target, -, leads⟩ | ⟨answer, stops, -, isAnswer⟩
  · simp [reached, found, leads] at isLast
  · simp only [stops]
    exact isAnswer

theorem entity_of_next {target : Entity} (leads : snapshot.next entity = some target) :
    snapshot.entity target.name = .ok target := by
  unfold next at leads
  split at leads
  · simp only [bind, Option.bind_eq_some_iff] at leads
    obtain ⟨property, -, name, -, found⟩ := leads
    cases known : snapshot.entity name with
    | error error => simp [known, Except.toOption] at found
    | ok candidate =>
        obtain rfl : candidate = target := by simpa [known, Except.toOption] using found
        rw [name_of_entity known, known]
  · simp at leads

theorem entity_of_reached (known : snapshot.entity entity.name = .ok entity)
    (reaches : snapshot.reached entity steps = some last) :
    snapshot.entity last.name = .ok last := by
  cases steps with
  | zero =>
      obtain rfl := Option.some.inj reaches
      exact known
  | succ steps =>
      obtain ⟨middle, -, leads⟩ := Option.bind_eq_some_iff.1 reaches
      exact entity_of_next leads

theorem mem_of_reached (member : entity ∈ snapshot.entities)
    (reaches : snapshot.reached entity steps = some last) : last ∈ snapshot.entities := by
  cases steps with
  | zero =>
      obtain rfl := Option.some.inj reaches
      exact member
  | succ steps =>
      obtain ⟨middle, -, leads⟩ := Option.bind_eq_some_iff.1 reaches
      exact mem_of_entity (entity_of_next leads)

/-- A chain that comes back to an entity never stops. -/
theorem reached_of_recurrence {first second : Nat} (later : first < second)
    (before : snapshot.reached entity first = some last)
    (again : snapshot.reached entity second = some last) (steps : Nat) :
    (snapshot.reached entity steps).isSome := by
  induction steps using Nat.strongRecOn with
  | _ steps ih =>
      by_cases within : steps ≤ second
      · exact reached_of_le within (by rw [again]; rfl)
      · -- Beyond the second meeting the chain is where it was one round earlier.
        obtain ⟨rest, rfl⟩ := Nat.exists_eq_add_of_lt (Nat.lt_of_not_le within)
        have shifted := ih (first + (rest + 1)) (by omega)
        rw [reached_add, before] at shifted
        rw [Nat.add_assoc, reached_add, again]
        exact shifted

theorem reached_of_returns (known : snapshot.entity entity.name = .ok entity)
    (returns : snapshot.Returns entity steps) (further : Nat) :
    (snapshot.reached entity further).isSome := by
  obtain ⟨last, reaches, seen⟩ := returns
  obtain ⟨fewer, less, earlier, met, sameName⟩ := mem_namesBefore.1 seen
  have same : earlier = last := by
    have earlierKnown := entity_of_reached known met
    rw [sameName, entity_of_reached known reaches] at earlierKnown
    exact (Except.ok.inj earlierKnown).symm
  exact reached_of_recurrence less met (same ▸ reaches) further

/-- Without a return, as many names as entities of the chain occur in the snapshot. -/
theorem lt_length_of_fresh (known : snapshot.entity entity.name = .ok entity)
    (fresh : ∀ fewer ≤ steps, ¬snapshot.Returns entity fewer)
    (reaches : (snapshot.reached entity steps).isSome) :
    steps < (snapshot.entities.map (·.name)).dedup.length := by
  have distinct : (snapshot.namesBefore entity (steps + 1)).Nodup :=
    nodup_namesBefore fun fewer less => fresh fewer (Nat.le_of_lt_succ less)
  have occurring : snapshot.namesBefore entity (steps + 1) ⊆
      (snapshot.entities.map (·.name)).dedup := by
    intro name member
    obtain ⟨fewer, -, earlier, met, rfl⟩ := mem_namesBefore.1 member
    have inSnapshot := mem_of_entity (entity_of_reached known met)
    exact List.mem_dedup.2 (List.mem_map_of_mem inSnapshot)
  have counted := (distinct.subperm occurring).length_le
  rw [length_namesBefore reaches] at counted
  exact counted

theorem first_return_or_fresh (snapshot : Snapshot) (entity : Entity) :
    (∃ steps ≤ longestChain, snapshot.Returns entity steps ∧
        ∀ fewer < steps, ¬snapshot.Returns entity fewer) ∨
      ∀ steps ≤ longestChain, ¬snapshot.Returns entity steps := by
  by_cases comesBack : ∃ steps, steps ≤ longestChain ∧ snapshot.Returns entity steps
  · obtain ⟨within, returns⟩ := Nat.find_spec comesBack
    refine Or.inl ⟨Nat.find comesBack, within, returns, ?_⟩
    intro fewer less earlierReturns
    have earlierWithin := Nat.le_trans (Nat.le_of_lt less) within
    exact Nat.find_min comesBack less ⟨earlierWithin, earlierReturns⟩
  · exact Or.inr fun steps within returns => comesBack ⟨steps, within, returns⟩

theorem returns_of_cycle {start : String} {chain : List String}
    (cyclic : snapshot.identifierStorage entity = .error (.identifierCycle start chain)) :
    ∃ steps, snapshot.Returns entity steps := by
  rcases first_return_or_fresh snapshot entity with ⟨steps, -, returns, -⟩ | fresh
  · exact ⟨steps, returns⟩
  · cases bound : snapshot.reached entity longestChain with
    | some last => simp [tooDeep_of_fresh fresh (by simp [bound])] at cyclic
    | none =>
        obtain ⟨steps, -, last, -, -, stops⟩ := stops_of_fresh fresh bound
        exact absurd cyclic (stops.not_guard start chain).1

theorem fresh_of_tooDeep {start : String}
    (tooDeep : snapshot.identifierStorage entity = .error (.identifierTooDeep start)) :
    (∀ steps ≤ longestChain, ¬snapshot.Returns entity steps) ∧
      (snapshot.reached entity longestChain).isSome := by
  rcases first_return_or_fresh snapshot entity with ⟨steps, within, returns, first⟩ | fresh
  · simp [cycle_of_returns within returns first] at tooDeep
  · refine ⟨fresh, ?_⟩
    cases bound : snapshot.reached entity longestChain with
    | some last => rfl
    | none =>
        obtain ⟨steps, -, last, -, -, stops⟩ := stops_of_fresh fresh bound
        exact absurd tooDeep (stops.not_guard start []).2

/-- What the identifier of an entity is stored as is what its chain ends with. A name that comes back
within the bound is reported with all names up to it, and only otherwise a chain that goes on to the
bound. For an entity of the snapshot the first report means that the chain has no end, and the second
that the snapshot has more names of entities than the bound. -/
theorem identifierStorage_follows_chain (snapshot : Snapshot) (entity : Entity) :
    (∀ steps ≤ longestChain, snapshot.Returns entity steps →
        (∀ fewer < steps, ¬snapshot.Returns entity fewer) →
        snapshot.identifierStorage entity =
          .error (.identifierCycle entity.name (snapshot.namesBefore entity (steps + 1)))) ∧
      ((∀ steps ≤ longestChain, ¬snapshot.Returns entity steps) →
        (snapshot.reached entity longestChain).isSome →
        snapshot.identifierStorage entity = .error (.identifierTooDeep entity.name)) ∧
      ((∀ steps ≤ longestChain, ¬snapshot.Returns entity steps) →
        snapshot.reached entity longestChain = none →
        ∃ steps < longestChain, ∃ last, snapshot.reached entity steps = some last ∧
          snapshot.reached entity (steps + 1) = none ∧
          ∀ answer, snapshot.Stops last answer ↔ answer = snapshot.identifierStorage entity) ∧
      ∀ name, snapshot.entity name = .ok entity →
        (∀ start chain,
          snapshot.identifierStorage entity = .error (.identifierCycle start chain) →
          ∀ steps, (snapshot.reached entity steps).isSome) ∧
        ((snapshot.entities.map (·.name)).dedup.length ≤ longestChain →
          ∀ start, snapshot.identifierStorage entity ≠ .error (.identifierTooDeep start)) := by
  refine ⟨fun steps => cycle_of_returns, tooDeep_of_fresh, ?_, ?_⟩
  · intro fresh stopped
    obtain ⟨steps, less, last, reaches, isLast, stops⟩ := stops_of_fresh fresh stopped
    refine ⟨steps, less, last, reaches, isLast, ?_⟩
    intro answer
    constructor
    · intro ends
      exact ends.unique stops
    · intro isAnswer
      rw [isAnswer]
      exact stops
  · intro name found
    have known : snapshot.entity entity.name = .ok entity := by rw [name_of_entity found, found]
    constructor
    · intro start chain cyclic steps
      obtain ⟨back, returns⟩ := returns_of_cycle cyclic
      exact reached_of_returns known returns steps
    · intro few start tooDeep
      obtain ⟨fresh, reaches⟩ := fresh_of_tooDeep tooDeep
      exact absurd few (Nat.not_le_of_lt (lt_length_of_fresh known fresh reaches))

end Snapshot

namespace Rungs

/-- Two snapshots in which every identifier refers to the next entity: a loop with a tail, and a
ladder of one rung more than the bound. -/
def rung (name next : String) : Entity where
  name
  identifier := .property "next"
  properties := [{ name := "next", type := .toOne next }]

def loop : Snapshot where
  entities := [rung "Tail" "Left", rung "Left" "Right", rung "Right" "Left"]

def tally (number : Nat) : String := .ofList (List.replicate number 'I')

def step (number : Nat) : Entity := rung (tally number) (tally (number + 1))

def ladder : Snapshot where
  entities := (List.range (longestChain + 1)).map step

/-- The tail leads into the loop. The whole ladder is too deep, and without its first rung just not,
so that the missing entity above it is found out. -/
theorem chains :
    (loop.Returns (rung "Tail" "Left") 3 ∧
        (∀ fewer < 3, ¬loop.Returns (rung "Tail" "Left") fewer) ∧
        loop.identifierStorage (rung "Tail" "Left") =
          .error (.identifierCycle "Tail" ["Tail", "Left", "Right", "Left"])) ∧
      ((∀ steps ≤ longestChain, ¬ladder.Returns (step 0) steps) ∧
        (ladder.reached (step 0) longestChain).isSome ∧
        ladder.identifierStorage (step 0) = .error (.identifierTooDeep (tally 0))) ∧
      ((∀ steps ≤ longestChain, ¬ladder.Returns (step 1) steps) ∧
        ladder.reached (step 1) longestChain = none ∧
        ∃ steps < longestChain, ∃ last, ladder.reached (step 1) steps = some last ∧
          ladder.reached (step 1) (steps + 1) = none ∧
          ∀ answer, ladder.Stops last answer ↔ answer = ladder.identifierStorage (step 1)) ∧
      loop.entity "Tail" = .ok (rung "Tail" "Left") ∧
        (∀ steps, (loop.reached (rung "Tail" "Left") steps).isSome) ∧
        (loop.entities.map (·.name)).dedup.length ≤ longestChain ∧
        ∀ start, loop.identifierStorage (rung "Tail" "Left") ≠ .error (.identifierTooDeep start) := by
  obtain ⟨cycle, -, -, sound⟩ := loop.identifierStorage_follows_chain (rung "Tail" "Left")
  have returns : loop.Returns (rung "Tail" "Left") 3 := by decide
  have first : ∀ fewer < 3, ¬loop.Returns (rung "Tail" "Left") fewer := by decide
  have cyclic := cycle 3 (by decide) returns first
  obtain ⟨-, tooDeep, -, -⟩ := ladder.identifierStorage_follows_chain (step 0)
  have fresh : ∀ steps ≤ longestChain, ¬ladder.Returns (step 0) steps := by decide +kernel
  have reaches : (ladder.reached (step 0) longestChain).isSome := by decide +kernel
  obtain ⟨-, -, stops, -⟩ := ladder.identifierStorage_follows_chain (step 1)
  have laterFresh : ∀ steps ≤ longestChain, ¬ladder.Returns (step 1) steps := by decide +kernel
  have stopped : ladder.reached (step 1) longestChain = none := by decide +kernel
  have few : (loop.entities.map (·.name)).dedup.length ≤ longestChain := by decide
  obtain ⟨endless, notTooDeep⟩ := sound "Tail" rfl
  exact ⟨⟨returns, first, cyclic⟩, ⟨fresh, reaches, tooDeep fresh reaches⟩,
    ⟨laterFresh, stopped, stops laterFresh stopped⟩, rfl, endless _ _ cyclic, few, notTooDeep few⟩

end Rungs

end SchemaHistory
