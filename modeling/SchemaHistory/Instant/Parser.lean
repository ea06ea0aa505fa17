import SchemaHistory.Instant.Basic
import SchemaHistory.Text.Blank

/-!
Reading an instant: a day, `T` or a blank, a time of day, and an offset from universal time. Each
number may have fewer digits than its place, and blanks may stand before a number or a divider.
-/

namespace SchemaHistory.Instant

set_option autoImplicit false

abbrev Reader (α : Type) := List Char → Option (α × List Char)

/-- One digit at least and `width` at most. -/
def digits (width : Nat) : Reader Nat := fun text =>
  let read := (text.take width).takeWhile Char.isDigit
  if read = [] then none else some (Nat.ofDigitChars 10 read 0, text.drop read.length)

def number (width : Nat) : Reader Nat := fun text => digits width (Text.trimLeft text)

/-- A year of at most four digits, or a sign and any number of digits. -/
def year : Reader Int := fun text =>
  match Text.trimLeft text with
  | '-' :: rest => (digits rest.length rest).map fun (value, rest) => (-value, rest)
  | '+' :: rest => (digits rest.length rest).map fun (value, rest) => (value, rest)
  | rest => (digits 4 rest).map fun (value, rest) => (value, rest)

def divider (char : Char) : Reader Unit := fun text =>
  match Text.trimLeft text with
  | [] => none
  | head :: rest => if head = char then some ((), rest) else none

def day : Reader Date := fun text => do
  let (year, text) ← year text
  let (_, text) ← divider '-' text
  let (month, text) ← number 2 text
  let (_, text) ← divider '-' text
  let (day, text) ← number 2 text
  let date : Date := ⟨year, month, day⟩
  if date.isValid then some (date, text) else none

def dayEnd : Reader Unit
  | 'T' :: rest | 't' :: rest | ' ' :: rest => some ((), rest)
  | _ => none

/-- Nanoseconds after a point; digits beyond the ninth are dropped. -/
def fraction : Reader Nat
  | '.' :: rest =>
      let read := rest.takeWhile Char.isDigit
      if read = [] then none
      else
        let kept := read.take 9
        let zeros := List.replicate (9 - kept.length) '0'
        some (Nat.ofDigitChars 10 (kept ++ zeros) 0, rest.drop read.length)
  | text => some (0, text)

/-- Seconds of the day and nanoseconds. Second 60 is the leap second. -/
def time : Reader (Int × Nat) := fun text => do
  let (hour, text) ← number 2 text
  let (_, text) ← divider ':' text
  let (minute, text) ← number 2 text
  let (_, text) ← divider ':' text
  let (second, text) ← number 2 text
  let (nanoseconds, text) ← fraction text
  if 23 < hour ∨ 59 < minute ∨ 60 < second then none
  else
    let leap := second / 60
    some (((hour * 3600 + minute * 60 + (second - leap) : Nat),
      nanoseconds + leap * nanosecondsPerSecond), text)

def isOffsetBlank (char : Char) : Bool := char = ':' || Text.isBlank char

/-- Hours and minutes of two digits each, the hours below 24, with colons or blanks between. -/
def offsetSize : Reader Int
  | first :: second :: rest =>
      match rest.dropWhile isOffsetBlank with
      | third :: fourth :: rest =>
          let hours := Nat.ofDigitChars 10 [first, second] 0
          let minutes := Nat.ofDigitChars 10 [third, fourth] 0
          if [first, second, third, fourth].all Char.isDigit ∧ hours < 24 ∧ minutes < 60 then
            some ((hours * 3600 + minutes * 60 : Nat), rest)
          else none
      | _ => none
  | _ => none

def offset : Reader Int
  | 'Z' :: rest | 'z' :: rest => some (0, rest)
  | '+' :: rest => offsetSize rest
  | '-' :: rest | '−' :: rest => (offsetSize rest).map fun (size, rest) => (-size, rest)
  | first :: second :: third :: rest =>
      if [first, second, third].map Char.toUpper = ['U', 'T', 'C'] then some (0, rest) else none
  | _ => none

def parse? (source : String) : Option Instant := do
  let (date, text) ← day source.toList
  let (_, text) ← dayEnd text
  let ((seconds, nanoseconds), text) ← time text
  let (offset, text) ← offset (Text.trimLeft text)
  let instant : Instant := ⟨date.toDays * secondsPerDay + seconds - offset, nanoseconds⟩
  if Text.trimLeft text = [] ∧ (Date.ofDays (instant.seconds / secondsPerDay)).isValid then
    some instant
  else none

end SchemaHistory.Instant
