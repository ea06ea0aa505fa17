import SchemaHistory.Text.CaseTable
import SchemaHistory.Text.Ranges

/-!
Lower and upper case of characters and texts, with the forms that have several characters. A capital
sigma at the end of a word has a lower form of its own; nothing else depends on its surroundings.
-/

namespace SchemaHistory.Text

set_option autoImplicit false

/-- The image of a code point under ascending runs; itself where no run has it. -/
def mapRuns : List CaseRun → Nat → Nat
  | [], code => code
  | run :: rest, code =>
      if run.last < code then mapRuns rest code
      else if run.first ≤ code ∧ (code - run.first) % run.stride = 0 then
        run.target + (code - run.first)
      else code

def mapChar (expansions : List (Nat × List Nat)) (runs : List CaseRun) (char : Char) : List Char :=
  match expansions.lookup char.toNat with
  | some codes => codes.map Char.ofNat
  | none => [.ofNat (mapRuns runs char.toNat)]

def lowerChar (char : Char) : List Char := mapChar lowerExpansions lowerRuns char

def upperChar (char : Char) : List Char := mapChar upperExpansions upperRuns char

def isCased (char : Char) : Bool := inRanges casedRanges char.toNat

def isCaseIgnorable (char : Char) : Bool := inRanges caseIgnorableRanges char.toNat

def meetsCased (text : List Char) : Bool :=
  match text.dropWhile isCaseIgnorable with
  | [] => false
  | char :: _ => isCased char

/-- The lower form of a text that follows `before`, which is given backwards. A sigma is final
after a cased character and before none. -/
def lowerAfter (before : List Char) : List Char → List Char
  | [] => []
  | char :: rest =>
      (if char = 'Σ' then
        if meetsCased before && !meetsCased rest then ['ς'] else ['σ']
      else lowerChar char) ++ lowerAfter (char :: before) rest

def lower (text : List Char) : List Char := lowerAfter [] text

def upper (text : List Char) : List Char := text.flatMap upperChar

end SchemaHistory.Text
