/-!
JSON values. A number written without fraction and exponent is whole if it fits 64 bits, signed or
unsigned; every other number is a double.
-/

namespace SchemaHistory

set_option autoImplicit false

inductive Json where
  | null
  | bool (value : Bool)
  | whole (value : Int)
  | real (value : Float)
  | text (value : String)
  | array (items : List Json)
  | object (members : List (String × Json))

namespace Json

def get? (key : String) : Json → Option Json
  | .object members => members.lookup key
  | _ => none

def text? : Json → Option String
  | .text value => some value
  | _ => none

def bool? : Json → Option Bool
  | .bool value => some value
  | _ => none

def list? {α : Type} (read : Json → Option α) : Json → Option (List α)
  | .array items => items.mapM read
  | _ => none

def optional? {α : Type} (json : Json) (key : String) (read : Json → Option α) :
    Option (Option α) :=
  match json.get? key with
  | none | some .null => some none
  | some value => (read value).map some

def orDefault? {α : Type} (json : Json) (key : String) (read : Json → Option α) (default : α) :
    Option α :=
  match json.get? key with
  | none => some default
  | some value => read value

def required? {α : Type} (json : Json) (key : String) (read : Json → Option α) : Option α :=
  (json.get? key).bind read

def isObject : Json → Bool
  | .object _ => true
  | _ => false

/-- One of several alternatives is an object with its name as the only key, beside what it holds.
One that holds nothing may be the name alone. -/
def alternative? : Json → Option (String × Json)
  | .text name => some (name, .null)
  | .object [(name, content)] => some (name, content)
  | _ => none

def choice? {α : Type} (all : List α) (key : α → String) (json : Json) : Option α :=
  match json.alternative? with
  | some (name, .null) => all.find? (key · == name)
  | _ => none

def textArray (values : List String) : Json := .array (values.map .text)

def flag (key : String) (value : Bool) : List (String × Json) :=
  if value then [(key, .bool true)] else []

def given {α : Type} (key : String) (write : α → Json) : Option α → List (String × Json)
  | some value => [(key, write value)]
  | none => []

end Json

end SchemaHistory
