/-!
Where artifacts go. A sink takes a name, a content and a directory, and decides on the path.
-/

namespace SchemaHistory

set_option autoImplicit false

structure SinkError where
  path : String
  deriving DecidableEq

/-- What a write of `content` as `name` into `directory` makes of the state of a sink. -/
structure Sink (σ : Type) where
  write : (name content directory : String) → σ → Except SinkError Unit × σ

end SchemaHistory
