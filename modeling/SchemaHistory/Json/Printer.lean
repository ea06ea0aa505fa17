import SchemaHistory.Decimal.Layout
import SchemaHistory.Json.Basic

/-!
Writing a JSON value on one line. A double is written by its shortest digits, and as null where JSON
has no number for it.
-/

namespace SchemaHistory.Json

set_option autoImplicit false

def realLayout : Decimal.Layout :=
  { leastPositional := -4, leastScientific := 16, wholeEnd := ".0", exponentMark := "e"
    infinity := "Infinity", nan := "NaN" }

def escapeChar (char : Char) : List Char :=
  if char = '"' ∨ char = '\\' then ['\\', char]
  else if char.toNat < 0x20 then
    ['\\', 'u', '0', '0', Nat.digitChar (char.toNat / 16), Nat.digitChar (char.toNat % 16)]
  else [char]

def quote (value : String) : String :=
  "\"" ++ .ofList (value.toList.flatMap escapeChar) ++ "\""

def renderReal (value : Float) : String :=
  match Decimal.Binary.ofBits value.toBits with
  | .finite .. => realLayout.format value
  | _ => "null"

mutual

def render : Json → String
  | .null => "null"
  | .bool value => if value then "true" else "false"
  | .whole value => toString value
  | .real value => renderReal value
  | .text value => quote value
  | .array items => "[" ++ renderItems items ++ "]"
  | .object members => "\x7b" ++ renderMembers members ++ "\x7d"

def renderItems : List Json → String
  | [] => ""
  | [item] => render item
  | item :: rest => render item ++ "," ++ renderItems rest

def renderMembers : List (String × Json) → String
  | [] => ""
  | [(key, value)] => quote key ++ ":" ++ render value
  | (key, value) :: rest => quote key ++ ":" ++ render value ++ "," ++ renderMembers rest

end

end SchemaHistory.Json
