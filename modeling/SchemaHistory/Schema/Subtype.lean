import SchemaHistory.Schema.Property

/-!
Subtypes: types that a model defines for itself, as one of several cases, as a set of options, or as
a group of fields.
-/

namespace SchemaHistory

set_option autoImplicit false

structure Field where
  name : String
  type : PropertyType
  isOptional : Bool := false
  deriving DecidableEq

inductive SubtypeItems where
  | cases (names : List String)
  | options (names : List String)
  | properties (fields : List Field)
  deriving DecidableEq

structure SubtypeDefinition where
  name : String
  items : SubtypeItems
  deriving DecidableEq

/-- A case is stored by its name, options in the bits of a number, and fields together. -/
def SubtypeDefinition.storage (subtype : SubtypeDefinition) : StorageType :=
  match subtype.items with
  | .cases _ => .string
  | .options _ => .integer64
  | .properties _ => .binary

end SchemaHistory
