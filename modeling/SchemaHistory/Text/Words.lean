import SchemaHistory.Text.Case
import SchemaHistory.Text.Cluster

/-!
The words of a name, and the spellings made of them: `snake_case`, `camelCase` and `PascalCase`.
A low line, a hyphen and a space divide words and are dropped. A word also ends where the kind of
character changes, and an acronym ends before the capital that begins the word after it.
-/

namespace SchemaHistory.Text

set_option autoImplicit false

inductive Glyph where
  | separator | upper | lower | digit | other
  deriving DecidableEq

/-- A cluster is a letter of one case when its two forms differ and it has the one form itself. -/
def Glyph.ofCluster (cluster : List Char) : Glyph :=
  if cluster = ['_'] ∨ cluster = ['-'] ∨ cluster = [' '] then .separator
  else if cluster.all Char.isDigit then .digit
  else
    let lowered := Text.lower cluster
    let raised := Text.upper cluster
    if lowered = raised then .other
    else if cluster = raised then .upper
    else if cluster = lowered then .lower
    else .other

def Glyph.endsBefore : Glyph → List (Glyph × List Char) → Bool
  | .lower, (.upper, _) :: _ | .lower, (.digit, _) :: _ | .upper, (.digit, _) :: _
  | .digit, (.lower, _) :: _ | .digit, (.upper, _) :: _ => true
  | .upper, (.upper, _) :: (.lower, _) :: _ => true
  | _, _ => false

def extendFirst (chars : List Char) : List (List Char) → List (List Char)
  | [] => [chars]
  | word :: words => (chars ++ word) :: words

/-- The words of a text. A word between two separators, or between one and an end, is empty. -/
def wordsOfGlyphs : List (Glyph × List Char) → List (List Char)
  | [] => [[]]
  | (glyph, cluster) :: rest =>
      if glyph = .separator then [] :: wordsOfGlyphs rest
      else if glyph.endsBefore rest then cluster :: wordsOfGlyphs rest
      else extendFirst cluster (wordsOfGlyphs rest)

/-- The words of a name. The empty name has none. -/
def words (name : List Char) : List (List Char) :=
  if name = [] then []
  else wordsOfGlyphs ((clusters name).map fun cluster => (Glyph.ofCluster cluster, cluster))

def capitalize : List Char → List Char
  | [] => []
  | char :: rest => upperChar char ++ lower rest

def snakeCase (name : List Char) : List Char := ['_'].intercalate ((words name).map lower)

def pascalCase (name : List Char) : List Char := (words name).flatMap capitalize

def camelCase (name : List Char) : List Char :=
  match words name with
  | [] => []
  | first :: rest => lower first ++ rest.flatMap capitalize

end SchemaHistory.Text
