import SchemaHistory.Config.Basic
import SchemaHistory.Toml.Statement

/-!
Reading a configuration file. The document knows one table, `model`, which may be written under a
header, as an inline table, or by dotted keys, but in one of these ways only. Two further forms are
left out and refused here: the table as an array of its values in their order, and the naming mode as
a table whose only key is the mode.
-/

namespace SchemaHistory.Config

set_option autoImplicit false

/-- What the statements so far say of the table `model`. -/
inductive Table where
  | absent
  /-- Inline, and therefore complete. -/
  | inline (members : List (String × Json))
  | dotted (members : List (String × Json))
  /-- Under its header, which the statements that follow belong to. -/
  | headed (members : List (String × Json))

def Table.members : Table → List (String × Json)
  | .absent => []
  | .inline members | .dotted members | .headed members => members

def addMember (members : List (String × Json)) (key : String) (value : Json) :
    Option (List (String × Json)) :=
  if members.any (·.1 == key) then none else some (members ++ [(key, value)])

def Table.step : Table → Toml.Statement → Option Table
  | .absent, .header ["model"] => some (.headed [])
  | .absent, .assignment ["model"] (.object members) => some (.inline members)
  | .absent, .assignment ["model", key] value => some (.dotted [(key, value)])
  | .dotted members, .assignment ["model", key] value => (addMember members key value).map .dotted
  | .headed members, .assignment [key] value => (addMember members key value).map .headed
  | _, _ => none

def parse (document : String) : Except ConfigError Config :=
  let decoded := do
    let statements ← Toml.statements? document
    let table ← statements.foldlM Table.step .absent
    decode? (.object table.members)
  match decoded with
  | none => .error .malformed
  | some config => config.check.map fun _ => config

def load : Option String → Except ConfigError Config
  | none => .error .unreadable
  | some document => parse document

end SchemaHistory.Config
