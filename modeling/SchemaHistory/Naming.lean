import SchemaHistory.Text.Words

/-!
How attributes are named. The current mode writes names in snake case and the legacy mode in camel
case; the names of bookkeeping attributes follow.
-/

namespace SchemaHistory

set_option autoImplicit false

inductive NamingMode where
  | legacy | current
  deriving DecidableEq

namespace NamingMode

instance : Inhabited NamingMode := ⟨.current⟩

def all : List NamingMode := [.legacy, .current]

def name : NamingMode → String
  | .legacy => "Legacy"
  | .current => "Current"

def isLegacy : NamingMode → Bool
  | .legacy => true
  | .current => false

def propertyName (mode : NamingMode) (name : String) : String :=
  match mode with
  | .legacy => .ofList (Text.camelCase name.toList)
  | .current => .ofList (Text.snakeCase name.toList)

def typeUid : NamingMode → String
  | .legacy => "__typeUID"
  | .current => "__type_uid"

def remoteState : NamingMode → String
  | .legacy => "_remoteSynchronizationState"
  | .current => "_remote_synchronization_state"

def lastRemoteRead : NamingMode → String
  | .legacy => "__lastRemoteRead"
  | .current => "__last_remote_read"

/-- Ends the name of the attribute that tells the type of the record a property refers to. -/
def typeUidEnding : NamingMode → String
  | .legacy => "TypeUID"
  | .current => "_type_uid"

/-- Ends the name of the flag that accompanies an extra property. -/
def extraFlagEnding : NamingMode → String
  | .legacy => "ExtraFlag"
  | .current => "_extra_flag"

end NamingMode

end SchemaHistory
