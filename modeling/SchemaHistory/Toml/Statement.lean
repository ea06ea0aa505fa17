import SchemaHistory.Toml.Token

/-!
The statements of a TOML document: table headers, and keys with their values. Values are strings,
truth values, arrays, and inline tables of plain keys; numbers and dates, which no configuration
holds, are refused, and so are arrays of tables. Inside brackets a line may end between any two
tokens.
-/

namespace SchemaHistory.Toml

set_option autoImplicit false

inductive Statement where
  | header (path : List String)
  | assignment (path : List String) (value : Json)

/-- What a value under way is for; what has been read of a container is kept backwards. -/
inductive Frame where
  | assign (path : List String)
  | items (read : List Json)
  | fields (read : List (String × Json))
  | field (read : List (String × Json)) (key : String)

inductive Reader.Mode where
  | lineStart
  | lineEnd
  | headerKey (path : List String)
  | headerNext (path : List String)
  | key (path : List String)
  | keyNext (path : List String)
  | value
  | item
  | itemNext
  | fieldKey
  | fieldEquals
  | fieldValue
  | fieldNext

structure Reader where
  mode : Reader.Mode
  stack : List Frame
  statements : List Statement

namespace Reader

def key? : Token → Option String
  | .bare text | .quoted text => some text
  | _ => none

def deliver (statements : List Statement) (value : Json) : List Frame → Option Reader
  | [.assign path] => some ⟨.lineEnd, [], .assignment path value :: statements⟩
  | .items read :: stack => some ⟨.itemNext, .items (value :: read) :: stack, statements⟩
  | .field read key :: stack =>
      if read.any (·.1 == key) then none
      else some ⟨.fieldNext, .fields ((key, value) :: read) :: stack, statements⟩
  | _ => none

def beginValue (statements : List Statement) (token : Token) (stack : List Frame) : Option Reader :=
  match token with
  | .bare "true" => deliver statements (.bool true) stack
  | .bare "false" => deliver statements (.bool false) stack
  | .quoted text | .multiline text => deliver statements (.text text) stack
  | .openBracket => some ⟨.item, .items [] :: stack, statements⟩
  | .openBrace => some ⟨.fieldKey, .fields [] :: stack, statements⟩
  | _ => none

def step (reader : Reader) (token : Token) : Option Reader :=
  let statements := reader.statements
  match reader.mode, token, reader.stack with
  | .lineStart, .lineEnd, stack => some ⟨.lineStart, stack, statements⟩
  | .lineStart, .openBracket, stack => some ⟨.headerKey [], stack, statements⟩
  | .lineStart, token, stack => do some ⟨.keyNext [← key? token], stack, statements⟩
  | .lineEnd, .lineEnd, stack => some ⟨.lineStart, stack, statements⟩
  | .headerKey path, token, stack => do
      some ⟨.headerNext (path ++ [← key? token]), stack, statements⟩
  | .headerNext path, .dot, stack => some ⟨.headerKey path, stack, statements⟩
  | .headerNext path, .closeBracket, stack => some ⟨.lineEnd, stack, .header path :: statements⟩
  | .key path, token, stack => do some ⟨.keyNext (path ++ [← key? token]), stack, statements⟩
  | .keyNext path, .dot, stack => some ⟨.key path, stack, statements⟩
  | .keyNext path, .equals, stack => some ⟨.value, .assign path :: stack, statements⟩
  | .value, token, stack => beginValue statements token stack
  | .item, .lineEnd, stack => some ⟨.item, stack, statements⟩
  | .itemNext, .lineEnd, stack => some ⟨.itemNext, stack, statements⟩
  | .itemNext, .comma, stack => some ⟨.item, stack, statements⟩
  | .item, .closeBracket, .items read :: stack
  | .itemNext, .closeBracket, .items read :: stack =>
      deliver statements (.array read.reverse) stack
  | .item, token, stack => beginValue statements token stack
  | .fieldKey, .lineEnd, stack => some ⟨.fieldKey, stack, statements⟩
  | .fieldEquals, .lineEnd, stack => some ⟨.fieldEquals, stack, statements⟩
  | .fieldValue, .lineEnd, stack => some ⟨.fieldValue, stack, statements⟩
  | .fieldNext, .lineEnd, stack => some ⟨.fieldNext, stack, statements⟩
  | .fieldNext, .comma, stack => some ⟨.fieldKey, stack, statements⟩
  | .fieldKey, .closeBrace, .fields read :: stack
  | .fieldNext, .closeBrace, .fields read :: stack =>
      deliver statements (.object read.reverse) stack
  | .fieldKey, token, .fields read :: stack => do
      some ⟨.fieldEquals, .field read (← key? token) :: stack, statements⟩
  | .fieldEquals, .equals, stack => some ⟨.fieldValue, stack, statements⟩
  | .fieldValue, token, stack => beginValue statements token stack
  | _, _, _ => none

def finish (reader : Reader) : Option (List Statement) :=
  match reader.mode with
  | .lineStart | .lineEnd => some reader.statements.reverse
  | _ => none

end Reader

def statements? (document : String) : Option (List Statement) := do
  let tokens ← tokens? document.toList
  (← tokens.foldlM Reader.step ⟨.lineStart, [], []⟩).finish

end SchemaHistory.Toml
