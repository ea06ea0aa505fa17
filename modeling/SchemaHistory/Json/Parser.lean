import SchemaHistory.Json.Token

/-!
Reading a JSON text. The containers under way are kept on a stack, so a value of any depth is read
in one pass over the tokens. Of two members with one key the later is kept.
-/

namespace SchemaHistory.Json

set_option autoImplicit false

/-- A container under way; what has been read of it is kept backwards. -/
inductive Frame where
  | items (read : List Json)
  | members (read : List (String × Json))
  | member (read : List (String × Json)) (key : String)

inductive Builder.Mode where
  | value
  /-- A value, or the end of the array. -/
  | firstItem
  | key
  /-- A key, or the end of the object. -/
  | firstKey
  | colon
  | separator
  | done (value : Json)

structure Builder where
  mode : Builder.Mode
  stack : List Frame

namespace Builder

def deliver (value : Json) : List Frame → Option Builder
  | [] => some ⟨.done value, []⟩
  | .items read :: stack => some ⟨.separator, .items (value :: read) :: stack⟩
  | .member read key :: stack =>
      some ⟨.separator, .members ((key, value) :: read.filter (·.1 != key)) :: stack⟩
  | .members _ :: _ => none

def begin (token : Token) (stack : List Frame) : Option Builder :=
  match token with
  | .scalar value => deliver value stack
  | .openArray => some ⟨.firstItem, .items [] :: stack⟩
  | .openObject => some ⟨.firstKey, .members [] :: stack⟩
  | _ => none

def close (token : Token) (stack : List Frame) : Option Builder :=
  match token, stack with
  | .closeArray, .items read :: stack => deliver (.array read.reverse) stack
  | .closeObject, .members read :: stack => deliver (.object read.reverse) stack
  | _, _ => none

def step (builder : Builder) (token : Token) : Option Builder :=
  match builder.mode, token, builder.stack with
  | .value, token, stack => begin token stack
  | .firstItem, .closeArray, stack => close .closeArray stack
  | .firstItem, token, stack => begin token stack
  | .firstKey, .closeObject, stack => close .closeObject stack
  | .firstKey, .scalar (.text key), .members read :: stack
  | .key, .scalar (.text key), .members read :: stack => some ⟨.colon, .member read key :: stack⟩
  | .colon, .colon, stack => some ⟨.value, stack⟩
  | .separator, .comma, .items read :: stack => some ⟨.value, .items read :: stack⟩
  | .separator, .comma, .members read :: stack => some ⟨.key, .members read :: stack⟩
  | .separator, token, stack => close token stack
  | _, _, _ => none

end Builder

def parse? (source : String) : Option Json := do
  let tokens ← tokens? source.toList
  match (← tokens.foldlM Builder.step ⟨.value, []⟩).mode with
  | .done value => some value
  | _ => none

end SchemaHistory.Json
