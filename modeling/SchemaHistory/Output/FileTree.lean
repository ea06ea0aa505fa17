import SchemaHistory.Output.Location
import SchemaHistory.Output.Sink

/-!
A tree of directories and files, and the sink that writes into it. A place is the list of names that
lead to it from the root; relative paths begin at `home`. Two dots lead to the directory above, and
above the root is the root.
-/

namespace SchemaHistory

set_option autoImplicit false

inductive Entry where
  | directory
  | file (content : String)
  deriving DecidableEq

structure FileTree where
  home : List String := []
  /-- By depth and place; the depth tells most places apart at once. -/
  entries : List ((Nat × List String) × Entry) := []
  deriving DecidableEq

namespace FileTree

def longestName : Nat := 255

def longestPath : Nat := 4095

def key (place : List String) : Nat × List String := (place.length, place)

/-- What is at a place. The root and `home` are always directories. -/
def entry? (tree : FileTree) (place : List String) : Option Entry :=
  if place.isPrefixOf tree.home then some .directory else tree.entries.lookup (key place)

def set (tree : FileTree) (place : List String) (entry : Entry) : FileTree :=
  { tree with entries := (key place, entry) :: tree.entries.filter (·.1 != key place) }

def descend (tree : FileTree) (place : List String) : List Location.Part → Option (List String)
  | [] => some place
  | .root :: rest => tree.descend [] rest
  | .here :: rest => tree.descend place rest
  | .parent :: rest => tree.descend place.dropLast rest
  | .name text :: rest =>
      if tree.entry? (place ++ [text]) = some .directory then
        tree.descend (place ++ [text]) rest
      else none

/-- Goes the way of `descend` and makes the directories that are missing. It stops at a file and at
a name that is too long; the directories made before that remain. -/
def makeWay (tree : FileTree) (place : List String) : List Location.Part → Bool × FileTree
  | [] => (true, tree)
  | .root :: rest => tree.makeWay [] rest
  | .here :: rest => tree.makeWay place rest
  | .parent :: rest => tree.makeWay place.dropLast rest
  | .name text :: rest =>
      match tree.entry? (place ++ [text]) with
      | some .directory => tree.makeWay (place ++ [text]) rest
      | some (.file _) => (false, tree)
      | none =>
          if longestName < text.utf8ByteSize then (false, tree)
          else (tree.set (place ++ [text]) .directory).makeWay (place ++ [text]) rest

def rooted (tree : FileTree) (path : String) : String :=
  if Location.isAbsolute path then path else "/" ++ "/".intercalate (tree.home ++ [path])

/-- No path holds the character zero or is too long. The length is that of the path from the root: a
relative path is measured together with `home`, where a system measures it as it is given. -/
def isPossible (tree : FileTree) (path : String) : Bool :=
  !path.toList.contains '\x00' && (tree.rooted path).utf8ByteSize ≤ longestPath

/-- Makes a directory and those above it. A path that ends in a dot names the directory before the
dot, which has to be there unless it is made on the way. -/
def makeDirectory (tree : FileTree) (path : String) : Bool × FileTree :=
  let parts := Location.parts path
  if !tree.isPossible path then (false, tree)
  else if Location.endsInDot path then
    let (made, tree) := tree.makeWay tree.home parts.dropLast
    (made && (tree.descend tree.home parts).isSome, tree)
  else tree.makeWay tree.home parts

/-- The place of a file at a path: a name inside a directory that exists. -/
def filePlace? (tree : FileTree) (path : String) : Option (List String) :=
  let parts := Location.parts path
  match parts.getLast? with
  | some (.name text) =>
      if Location.endsIdle path || !tree.isPossible path then none
      else (tree.descend tree.home parts.dropLast).map (· ++ [text])
  | _ => none

def file? (tree : FileTree) (path : String) : Option String := do
  match tree.entry? (← tree.filePlace? path) with
  | some (.file content) => some content
  | _ => none

def store? (tree : FileTree) (path content : String) : Option FileTree := do
  let place ← tree.filePlace? path
  if tree.entry? place = some .directory ∨
      (place.getLast?.any fun name => decide (longestName < name.utf8ByteSize)) then none
  else some (tree.set place (.file content))

def write (name content directory : String) (tree : FileTree) : Except SinkError Unit × FileTree :=
  match tree.makeDirectory directory with
  | (false, tree) => (.error ⟨directory⟩, tree)
  | (true, tree) =>
      let path := Location.join directory name
      match tree.store? path content with
      | none => (.error ⟨path⟩, tree)
      | some tree => (.ok (), tree)

def sink : Sink FileTree := ⟨write⟩

def filesAtHome (tree : FileTree) : List (String × String) :=
  tree.entries.filterMap fun ((_, place), entry) =>
    match entry with
    | .file content =>
        if tree.home.isPrefixOf place then
          some ("/".intercalate (place.drop tree.home.length), content)
        else none
    | .directory => none

end FileTree

end SchemaHistory
