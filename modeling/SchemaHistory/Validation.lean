import SchemaHistory.Findings
import SchemaHistory.Schema.Catalog

/-!
What makes a catalog sound, and the report of all that does not. Names are checked inside one
snapshot, the history of an entity inside the entity, and checkpoints against the snapshots. The
findings of a snapshot stand under its version, and those of an entity under its name below that.
-/

namespace SchemaHistory

set_option autoImplicit false

inductive Named where
  | entity | property
  deriving DecidableEq

def Named.word : Named → String
  | .entity => "entity"
  | .property => "property"

inductive Problem where
  | emptyName (kind : Named)
  | foreignName (kind : Named) (name : String)
  | repeatedEntity (name : String)
  | repeatedSubtype (name : String)
  | repeatedProperty (name : String)
  | missingAddedAt (entity : String)
  | earlyMapping (target latest : Version)
  | unknownIdentifier (property : String)
  | checkpointWithoutSnapshot (version : Version)
  deriving DecidableEq

def Problem.message : Problem → String
  | .emptyName kind => kind.word ++ " name is empty"
  | .foreignName kind name => kind.word ++ " name '" ++ name ++ "' must be ASCII"
  | .repeatedEntity name => "duplicate entity name '" ++ name ++ "'"
  | .repeatedSubtype name => "duplicate subtype name '" ++ name ++ "'"
  | .repeatedProperty name => "duplicate property name '" ++ name ++ "'"
  | .missingAddedAt entity => "persisted entity '" ++ entity ++ "' has no added_at_version"
  | .earlyMapping target latest =>
      "model mapping to " ++ target.dotted ++ " must be later than " ++ latest.dotted
  | .unknownIdentifier property => "identifier refers to unknown property '" ++ property ++ "'"
  | .checkpointWithoutSnapshot version =>
      "history version " ++ version.dotted ++ " has no descriptions"

def nameProblems (kind : Named) (name : String) : List Problem :=
  if name = "" then [.emptyName kind]
  else if name.toList.all (·.toNat < 128) then []
  else [.foreignName kind name]

/-- The names that stand in the list or among those seen before, once for each repetition. -/
def repetitions (seen : List String) : List String → List String
  | [] => []
  | name :: rest =>
      (if name ∈ seen then [name] else []) ++ repetitions (name :: seen) rest

def propertyProblems (seen : List String) : List Property → List Problem
  | [] => []
  | property :: rest =>
      nameProblems .property property.name ++
        (if property.name ∈ seen then [.repeatedProperty property.name] else []) ++
        propertyProblems (property.name :: seen) rest

/-- The mappings that do not lead beyond all versions before them. -/
def mappingProblems (latest : Version) : List Version → List Problem
  | [] => []
  | target :: rest =>
      (if target ≤ latest then [.earlyMapping target latest] else []) ++
        mappingProblems (max latest target) rest

namespace Entity

def namingProblems (entity : Entity) : List Problem :=
  nameProblems .entity entity.name ++ propertyProblems [] entity.properties

def historyProblems (entity : Entity) : List Problem :=
  match entity.addedAt with
  | none => if entity.isPersisted then [.missingAddedAt entity.name] else []
  | some addedAt => mappingProblems addedAt (entity.mappings.getD [])

def identifierProblems (entity : Entity) : List Problem :=
  match entity.identifier with
  | .property name =>
      if entity.properties.any (·.name == name) then [] else [.unknownIdentifier name]
  | _ => []

def problems (entity : Entity) : List Problem :=
  entity.namingProblems ++ entity.historyProblems ++ entity.identifierProblems

def findings (entity : Entity) : Findings := .leaf (entity.problems.map Problem.message)

end Entity

namespace Snapshot

def problems (snapshot : Snapshot) : List Problem :=
  (repetitions [] (snapshot.entities.map (·.name))).map .repeatedEntity ++
    (repetitions [] (snapshot.subtypes.map (·.name))).map .repeatedSubtype

def findings (snapshot : Snapshot) : Findings :=
  snapshot.entities.foldl (fun findings entity => findings.mergeAt entity.name entity.findings)
    (.leaf (snapshot.problems.map Problem.message))

end Snapshot

namespace Catalog

def problems (catalog : Catalog) : List Problem :=
  (catalog.checkpoints.filter (!catalog.contains ·)).map .checkpointWithoutSnapshot

def findings (catalog : Catalog) : Findings :=
  let perSnapshot := catalog.snapshots.foldl
    (fun findings entry => Findings.mergeAt findings entry.1.dotted entry.2.findings) Findings.empty
  perSnapshot.addAll (catalog.problems.map Problem.message)

def validate (catalog : Catalog) : Except Findings Unit := catalog.findings.result

end Catalog

end SchemaHistory
