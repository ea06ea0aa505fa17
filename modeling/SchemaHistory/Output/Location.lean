/-!
Paths as texts, and the parts they lead through. Two paths are the same when their parts are: slashes
in a row, a slash at the end, and single dots after the beginning make no difference.
-/

namespace SchemaHistory.Location

set_option autoImplicit false

inductive Part where
  | root
  /-- A single dot that begins a path. -/
  | here
  | parent
  | name (text : String)
  deriving DecidableEq

def isAbsolute (path : String) : Bool := path.toList.head? = some '/'

def pieces (path : String) : List String := (path.toList.splitOn '/').map String.ofList

def isIdle (piece : String) : Bool := piece = "" || piece = "."

def part (piece : String) : Part := if piece = ".." then .parent else .name piece

def parts (path : String) : List Part :=
  let later := ((pieces path).filter (!isIdle ·)).map part
  if isAbsolute path then .root :: later
  else if (pieces path).head? = some "." then .here :: later
  else later

def endsIdle (path : String) : Bool := (pieces path).getLast?.all isIdle

def endsInDot (path : String) : Bool := ((pieces path).filter (· ≠ "")).getLast? = some "."

def same (left right : String) : Bool := parts left = parts right

/-- The path of a name in a directory. An absolute name stands for itself. -/
def join (directory name : String) : String :=
  if isAbsolute name then name
  else if directory = "" ∨ directory.toList.getLast? = some '/' then directory ++ name
  else directory ++ "/" ++ name

def trimmed (path : String) : String :=
  let dropped := (pieces path).dropWhile isIdle
  "/".intercalate (dropped.reverse.dropWhile isIdle).reverse

end SchemaHistory.Location
