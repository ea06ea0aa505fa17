import SchemaHistory.Instant.Calendar

/-!
Moments of universal time with nanoseconds, and the text in which they are written.
-/

namespace SchemaHistory

set_option autoImplicit false

/-- So many seconds after the start of 1970, and nanoseconds beyond. A leap second is kept as the
second before it with a billion nanoseconds or more. -/
structure Instant where
  seconds : Int
  nanoseconds : Nat
  deriving DecidableEq

namespace Instant

def secondsPerDay : Int := 86400

def nanosecondsPerSecond : Nat := 1000000000

def ofMilliseconds (milliseconds : Int) : Instant :=
  { seconds := milliseconds / 1000, nanoseconds := (milliseconds % 1000).toNat * 1000000 }

def milliseconds (instant : Instant) : Int :=
  instant.seconds * 1000 + instant.nanoseconds / 1000000

def padded (width value : Nat) : String :=
  let digits := Nat.toDigits 10 value
  .ofList (List.replicate (width - digits.length) '0' ++ digits)

/-- Years of four digits stand alone; others carry a sign. -/
def yearText (year : Int) : String :=
  if 0 ≤ year ∧ year ≤ 9999 then padded 4 year.toNat
  else (if year < 0 then "-" else "+") ++ padded 4 year.natAbs

def fractionText (nanoseconds : Nat) : String :=
  if nanoseconds = 0 then ""
  else if nanoseconds % 1000000 = 0 then "." ++ padded 3 (nanoseconds / 1000000)
  else if nanoseconds % 1000 = 0 then "." ++ padded 6 (nanoseconds / 1000)
  else "." ++ padded 9 nanoseconds

def render (instant : Instant) : String :=
  let date := Date.ofDays (instant.seconds / secondsPerDay)
  let time := (instant.seconds % secondsPerDay).toNat
  let leap := instant.nanoseconds / nanosecondsPerSecond
  yearText date.year ++ "-" ++ padded 2 date.month ++ "-" ++ padded 2 date.day ++ "T" ++
    padded 2 (time / 3600) ++ ":" ++ padded 2 (time / 60 % 60) ++ ":" ++
    padded 2 (time % 60 + leap) ++
    fractionText (instant.nanoseconds % nanosecondsPerSecond) ++ "Z"

end Instant

end SchemaHistory
