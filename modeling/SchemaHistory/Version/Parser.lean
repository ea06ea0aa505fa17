import SchemaHistory.Text.Blank
import SchemaHistory.Version.Basic

/-!
Reading a version from text. Blanks around the text are ignored; two or three components divided
by dots are read, and a missing patch is zero.
-/

namespace SchemaHistory.Version

set_option autoImplicit false

inductive ParseError where
  | empty
  | componentCount (text : String)
  | invalidComponent (text component : String)
  deriving DecidableEq

def ParseError.message : ParseError → String
  | .empty => "version string is empty"
  | .componentCount text =>
      "version '" ++ text ++ "' must have two or three dot-separated components"
  | .invalidComponent text component =>
      "version '" ++ text ++ "' has a non-numeric component '" ++ component ++ "'"

def ofDigits? (digits : List Char) : Option UInt32 :=
  let value := Nat.ofDigitChars 10 digits 0
  if digits ≠ [] ∧ digits.all Char.isDigit ∧ value < UInt32.size then some (.ofNat value) else none

/-- A component is written in decimal digits, possibly after one plus sign. -/
def component? : List Char → Option UInt32
  | '+' :: digits => ofDigits? digits
  | digits => ofDigits? digits

/-- The components before the first one that cannot be read, or that one. -/
def components? : List (List Char) → Except (List Char) (List UInt32)
  | [] => .ok []
  | part :: parts =>
      match component? part with
      | none => .error part
      | some value => (components? parts).map (value :: ·)

def ofText (text : List Char) : Except ParseError Version :=
  let parts := text.splitOn '.'
  if text = [] then .error .empty
  else if parts.length < 2 ∨ 3 < parts.length then .error (.componentCount (.ofList text))
  else match components? parts with
    | .error part => .error (.invalidComponent (.ofList text) (.ofList part))
    | .ok values => .ok ⟨values.getD 0 0, values.getD 1 0, values.getD 2 0⟩

def parse (source : String) : Except ParseError Version := ofText (Text.trim source.toList)

def parse? (source : String) : Option Version := (parse source).toOption

end SchemaHistory.Version
