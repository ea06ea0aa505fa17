import SchemaHistory.Json.Basic

/-!
The tokens of a JSON text, read by an automaton that takes one character at a time.
-/

namespace SchemaHistory.Json

set_option autoImplicit false

inductive Token where
  | openObject | closeObject | openArray | closeArray | comma | colon
  | scalar (value : Json)

namespace Token

def digitValue (char : Char) : Option Nat :=
  if char.isDigit then some (char.toNat - '0'.toNat)
  else if 'a' ≤ char ∧ char ≤ 'f' then some (char.toNat - 'a'.toNat + 10)
  else if 'A' ≤ char ∧ char ≤ 'F' then some (char.toNat - 'A'.toNat + 10)
  else none

structure Literal where
  negative : Bool
  integral : List Char
  fraction : List Char
  exponent : Int
  isReal : Bool

def spanDigits (text : List Char) : List Char × List Char :=
  (text.takeWhile Char.isDigit, text.dropWhile Char.isDigit)

def exponent? : List Char → Option (Int × Bool)
  | [] => some (0, false)
  | mark :: rest =>
      let (negative, digits) := match rest with
        | '-' :: digits => (true, digits)
        | '+' :: digits => (false, digits)
        | digits => (false, digits)
      if (mark = 'e' ∨ mark = 'E') ∧ digits ≠ [] ∧ digits.all Char.isDigit then
        let size : Int := Nat.ofDigitChars 10 digits 0
        some (if negative then -size else size, true)
      else none

def literal? (text : List Char) : Option Literal := do
  let (negative, text) := match text with
    | '-' :: rest => (true, rest)
    | rest => (false, rest)
  let (integral, text) := spanDigits text
  if integral = [] ∨ (integral.head? = some '0' ∧ integral ≠ ['0']) then none
  else
    let (fraction, text, pointed) := match text with
      | '.' :: rest => ((spanDigits rest).1, (spanDigits rest).2, true)
      | rest => ([], rest, false)
    if pointed ∧ fraction = [] then none
    else
      let (exponent, scaled) ← exponent? text
      some { negative, integral, fraction, exponent, isReal := pointed || scaled }

/-- The number of a literal. A negative zero is a double, since no integer has that sign. -/
def Literal.value (literal : Literal) : Json :=
  let digits := Nat.ofDigitChars 10 (literal.integral ++ literal.fraction) 0
  let scale := literal.exponent - literal.fraction.length
  let size := Float.ofScientific digits (scale < 0) scale.natAbs
  let signed := if literal.negative then -size else size
  let integer : Int := if literal.negative then -digits else digits
  if literal.isReal ∨ (literal.negative ∧ digits = 0) then .real signed
  else if Int64.minValue.toInt ≤ integer ∧ integer < UInt64.size then .whole integer
  else .real signed

def number? (text : List Char) : Option Json := (literal? text).map Literal.value

def word? (text : List Char) : Option Json :=
  if text = "null".toList then some .null
  else if text = "true".toList then some (.bool true)
  else if text = "false".toList then some (.bool false)
  else none

def escape? : Char → Option Char
  | '"' => some '"'
  | '\\' => some '\\'
  | '/' => some '/'
  | 'b' => some '\x08'
  | 'f' => some '\x0c'
  | 'n' => some '\n'
  | 'r' => some '\r'
  | 't' => some '\t'
  | _ => none

end Token

/-- Where the reader of tokens stands; what has been read of a token is kept backwards. -/
inductive Lexer.Mode where
  | between
  | word (read : List Char)
  | number (read : List Char)
  | text (read : List Char)
  | escape (read : List Char)
  /-- In four hexadecimal digits, maybe after the first half of a surrogate pair. -/
  | unit (read : List Char) (high : Option Nat) (digits value : Nat)
  | half (read : List Char) (high : Nat)
  | halfEscape (read : List Char) (high : Nat)

structure Lexer where
  mode : Lexer.Mode
  tokens : List Token

namespace Lexer

def isNumberChar (char : Char) : Bool :=
  char.isDigit || char = '-' || char = '+' || char = '.' || char = 'e' || char = 'E'

def start (tokens : List Token) (char : Char) : Option Lexer :=
  match char with
  | ' ' | '\t' | '\n' | '\r' => some ⟨.between, tokens⟩
  | '\x7b' => some ⟨.between, .openObject :: tokens⟩
  | '\x7d' => some ⟨.between, .closeObject :: tokens⟩
  | '[' => some ⟨.between, .openArray :: tokens⟩
  | ']' => some ⟨.between, .closeArray :: tokens⟩
  | ',' => some ⟨.between, .comma :: tokens⟩
  | ':' => some ⟨.between, .colon :: tokens⟩
  | '"' => some ⟨.text [], tokens⟩
  | _ =>
      if char = '-' ∨ char.isDigit then some ⟨.number [char], tokens⟩
      else if char.isAlpha then some ⟨.word [char], tokens⟩
      else none

/-- The four digits of a code unit are complete. The halves of a pair have to follow each other. -/
def unitRead (tokens : List Token) (read : List Char) (high : Option Nat) (value : Nat) :
    Option Lexer :=
  let isLow := 0xDC00 ≤ value ∧ value ≤ 0xDFFF
  match high with
  | some high =>
      if isLow then
        some ⟨.text (.ofNat (0x10000 + (high - 0xD800) * 0x400 + (value - 0xDC00)) :: read), tokens⟩
      else none
  | none =>
      if 0xD800 ≤ value ∧ value ≤ 0xDBFF then some ⟨.half read value, tokens⟩
      else if isLow then none
      else some ⟨.text (.ofNat value :: read), tokens⟩

def step (lexer : Lexer) (char : Char) : Option Lexer :=
  let tokens := lexer.tokens
  match lexer.mode with
  | .between => start tokens char
  | .word read =>
      if char.isAlpha then some ⟨.word (char :: read), tokens⟩
      else do start (.scalar (← Token.word? read.reverse) :: tokens) char
  | .number read =>
      if isNumberChar char then some ⟨.number (char :: read), tokens⟩
      else do start (.scalar (← Token.number? read.reverse) :: tokens) char
  | .text read =>
      if char = '"' then some ⟨.between, .scalar (.text (.ofList read.reverse)) :: tokens⟩
      else if char = '\\' then some ⟨.escape read, tokens⟩
      else if char.toNat < 0x20 then none
      else some ⟨.text (char :: read), tokens⟩
  | .escape read =>
      if char = 'u' then some ⟨.unit read none 0 0, tokens⟩
      else do some ⟨.text ((← Token.escape? char) :: read), tokens⟩
  | .unit read high digits value => do
      let value := 16 * value + (← Token.digitValue char)
      if digits = 3 then unitRead tokens read high value
      else some ⟨.unit read high (digits + 1) value, tokens⟩
  | .half read high => if char = '\\' then some ⟨.halfEscape read high, tokens⟩ else none
  | .halfEscape read high => if char = 'u' then some ⟨.unit read (some high) 0 0, tokens⟩ else none

def finish (lexer : Lexer) : Option (List Token) :=
  match lexer.mode with
  | .between => some lexer.tokens.reverse
  | .word read => do some (.scalar (← Token.word? read.reverse) :: lexer.tokens).reverse
  | .number read => do some (.scalar (← Token.number? read.reverse) :: lexer.tokens).reverse
  | _ => none

end Lexer

def tokens? (text : List Char) : Option (List Token) := do
  (← text.foldlM Lexer.step ⟨.between, []⟩).finish

end SchemaHistory.Json
