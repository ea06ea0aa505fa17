import SchemaHistory.Decimal.Layout
import SchemaHistory.Markup.Escape
import SchemaHistory.Schema.Property

/-!
The attributes of a stored shape, and the elements in which they are written.
-/

namespace SchemaHistory

set_option autoImplicit false

def DefaultValue.attributeName (value : DefaultValue) : String :=
  if value.isDate then "defaultDateTimeInterval" else "defaultValueString"

/-- Numbers of defaults are positional from 0.0001 and below 10 ^ 16, and then have a fraction. -/
def DefaultValue.numberLayout : Decimal.Layout :=
  { leastPositional := -4, leastScientific := 16, wholeEnd := ".0", exponentMark := "e"
    infinity := "inf", nan := "NaN" }

/-- The text of a default. A date is written in seconds after the start of 1970. -/
def DefaultValue.literal : DefaultValue → String
  | .bool value => if value then "1" else "0"
  | .float value => numberLayout.format value
  | .int value => toString value.toInt
  | .text value | .enumCase value => value
  | .date value => numberLayout.format (.ofInt value.milliseconds / 1000.0)
  | .currentDate => "0"
  | .nil => "nil"

/-- What an element says of its attribute: whether a record may lack a value, and where it says
so. -/
inductive Optionality where
  | unsaid
  | said (value : Bool)
  | saidLast (value : Bool)
  deriving DecidableEq

structure Attribute where
  name : String
  storage : StorageType
  optionality : Optionality := .unsaid
  isUnboxed : Bool := false
  /-- The name that the attribute had before. -/
  elementId : Option String := none
  defaultValue : Option DefaultValue := none

namespace Markup

def pair (key value : String) : String := " " ++ key ++ "=\"" ++ value ++ "\""

def yesNo (value : Bool) : String := if value then "YES" else "NO"

def elementIdPair : Option String → String
  | some name => pair "elementID" (escape name)
  | none => ""

end Markup

open Markup

def Optionality.earlyPair : Optionality → String
  | .said value => pair "optional" (yesNo value)
  | _ => ""

def Optionality.latePair : Optionality → String
  | .saidLast value => pair "optional" (yesNo value)
  | _ => ""

def DefaultValue.pair (value : DefaultValue) : String :=
  Markup.pair value.attributeName (escape value.literal)

def Attribute.render (column : Attribute) : String :=
  "        <attribute" ++ pair "name" column.name ++ column.optionality.earlyPair ++
    pair "attributeType" column.storage.name ++
    (if column.isUnboxed then pair "usesScalarValueType" "YES" else "") ++
    pair "syncable" "YES" ++ column.optionality.latePair ++
    elementIdPair column.elementId ++
    ((column.defaultValue.map DefaultValue.pair).getD "") ++ "/>"

end SchemaHistory
