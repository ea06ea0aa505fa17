import SchemaHistory.Text.ClusterTable
import SchemaHistory.Text.Ranges

/-!
Grapheme clusters: what a reader takes for one character, such as a letter with its accents, a
syllable, or a picture composed of several. The rules are those of extended clusters.
-/

namespace SchemaHistory.Text

set_option autoImplicit false

inductive ClusterKind where
  | carriageReturn | lineFeed | control | extend | linker | nonJoiner | joiner | spacingMark
  | prepend | consonant | pictograph | regional | leading | vowel | trailing | leadingVowel
  | syllable | other
  deriving DecidableEq

namespace ClusterKind

/-- Hangul letters by their place in a syllable, and composed syllables without and with an end. The
vowels of Kirat Rai join like those of Hangul. -/
def syllabic? (code : Nat) : Option ClusterKind :=
  if inRanges [(0x1100, 0x115F), (0xA960, 0xA97C)] code then some .leading
  else if inRanges [(0x1160, 0x11A7), (0xD7B0, 0xD7C6), (0x16D63, 0x16D63), (0x16D67, 0x16D6A)] code
  then some .vowel
  else if inRanges [(0x11A8, 0x11FF), (0xD7CB, 0xD7FB)] code then some .trailing
  else if inRanges [(0xAC00, 0xD7A3)] code then
    some (if (code - 0xAC00) % 28 = 0 then .leadingVowel else .syllable)
  else none

def ofCode (code : Nat) : ClusterKind :=
  if code = 0xD then .carriageReturn
  else if code = 0xA then .lineFeed
  else if inRanges controlRanges code then .control
  else if code = 0x200C then .nonJoiner
  else if code = 0x200D then .joiner
  else if inRanges linkerRanges code then .linker
  else if inRanges extendRanges code then .extend
  else if inRanges spacingMarkRanges code then .spacingMark
  else if inRanges prependRanges code then .prepend
  else if inRanges pictographRanges code then .pictograph
  else if inRanges consonantRanges code then .consonant
  else if inRanges [(0x1F1E6, 0x1F1FF)] code then .regional
  else (syllabic? code).getD .other

def isBreaking : ClusterKind → Bool
  | .carriageReturn | .lineFeed | .control => true
  | _ => false

def isExtending : ClusterKind → Bool
  | .extend | .linker | .nonJoiner => true
  | _ => false

def isInConjunct : ClusterKind → Bool
  | .extend | .linker | .joiner => true
  | _ => false

/-- Does a cluster whose kinds are given backwards end in a consonant that is linked to the next? -/
def linksConsonant (cluster : List ClusterKind) : Bool :=
  (cluster.takeWhile isInConjunct).contains .linker &&
    (cluster.dropWhile isInConjunct).head? = some .consonant

/-- Does a cluster whose kinds are given backwards end in a picture, marks apart? -/
def endsInPictograph (cluster : List ClusterKind) : Bool :=
  (cluster.dropWhile isExtending).head? = some .pictograph

def continues (cluster : List ClusterKind) (next : ClusterKind) : Bool :=
  match cluster with
  | [] => false
  | last :: earlier =>
      if last = .carriageReturn ∧ next = .lineFeed then true
      else if last.isBreaking || next.isBreaking then false
      else if next.isExtending then true
      else match next with
        | .joiner | .spacingMark => true
        | .consonant => last = .prepend || linksConsonant cluster
        | _ =>
            if last = .prepend then true
            else match last, next with
              | .leading, .leading | .leading, .vowel | .leading, .leadingVowel
              | .leading, .syllable => true
              | .leadingVowel, .vowel | .leadingVowel, .trailing | .vowel, .vowel
              | .vowel, .trailing => true
              | .syllable, .trailing | .trailing, .trailing => true
              | .joiner, .pictograph => endsInPictograph earlier
              | .regional, .regional => earlier.head? ≠ some .regional
              | _, _ => false

end ClusterKind

def clustersAfter (cluster : List Char) (kinds : List ClusterKind) : List Char → List (List Char)
  | [] => [cluster.reverse]
  | char :: rest =>
      let kind := ClusterKind.ofCode char.toNat
      if ClusterKind.continues kinds kind then clustersAfter (char :: cluster) (kind :: kinds) rest
      else cluster.reverse :: clustersAfter [char] [kind] rest

def clusters : List Char → List (List Char)
  | [] => []
  | char :: rest => clustersAfter [char] [.ofCode char.toNat] rest

theorem flatten_clustersAfter (cluster : List Char) (kinds : List ClusterKind) (text : List Char) :
    (clustersAfter cluster kinds text).flatten = cluster.reverse ++ text := by
  induction text generalizing cluster kinds with
  | nil => simp [clustersAfter]
  | cons char rest ih =>
      simp only [clustersAfter]
      split <;> simp [ih]

theorem flatten_clusters (text : List Char) : (clusters text).flatten = text := by
  cases text with
  | nil => rfl
  | cons char rest => simp [clusters, flatten_clustersAfter]

end SchemaHistory.Text
