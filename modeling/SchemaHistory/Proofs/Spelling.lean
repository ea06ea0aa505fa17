import Mathlib.Tactic.SplitIfs
import SchemaHistory.Naming
import SchemaHistory.Proofs.Escaping

/-!
What spelling does to a name of ASCII. Only low lines, hyphens and spaces are dropped, and only letters
are changed. So every spelling of a name has the marks of the name, in their order.
-/

namespace SchemaHistory

set_option autoImplicit false

namespace Text

open Markup

def IsAscii (text : List Char) : Prop := ∀ char ∈ text, char.toNat < 128

variable {text name : List Char}

theorem IsAscii.tail {char : Char} {rest : List Char} (ascii : IsAscii (char :: rest)) :
    IsAscii rest := by
  intro other member
  exact ascii other (List.mem_cons_of_mem char member)

theorem marksOf_cons (char : Char) (rest : List Char) :
    marksOf (char :: rest) = marksOf [char] ++ marksOf rest :=
  marksOf_append [char] rest

theorem marksOf_forms : ∀ code < 128,
    marksOf (lowerChar (.ofNat code)) = marksOf [.ofNat code] ∧
      marksOf (upperChar (.ofNat code)) = marksOf [.ofNat code] := by
  decide +kernel

theorem marksOf_lowerChar {char : Char} (ascii : char.toNat < 128) :
    marksOf (lowerChar char) = marksOf [char] := by
  simpa using (marksOf_forms char.toNat ascii).1

theorem marksOf_upperChar {char : Char} (ascii : char.toNat < 128) :
    marksOf (upperChar char) = marksOf [char] := by
  simpa using (marksOf_forms char.toNat ascii).2

theorem marksOf_lowerAfter (before : List Char) (ascii : IsAscii text) :
    marksOf (lowerAfter before text) = marksOf text := by
  induction text generalizing before with
  | nil => rfl
  | cons char rest ih =>
      have headAscii : char.toNat < 128 := ascii char List.mem_cons_self
      have noSigma : char ≠ 'Σ' := by
        rintro rfl
        exact absurd headAscii (by decide)
      rw [lowerAfter, if_neg noSigma, marksOf_append, marksOf_lowerChar headAscii,
        ih (char :: before) ascii.tail, ← marksOf_cons]

theorem marksOf_lower (ascii : IsAscii text) : marksOf (lower text) = marksOf text :=
  marksOf_lowerAfter [] ascii

theorem marksOf_capitalize (ascii : IsAscii text) : marksOf (capitalize text) = marksOf text := by
  cases text with
  | nil => rfl
  | cons char rest =>
      have headAscii : char.toNat < 128 := ascii char List.mem_cons_self
      rw [capitalize, marksOf_append, marksOf_upperChar headAscii, marksOf_lower ascii.tail,
        ← marksOf_cons]

theorem flatten_extendFirst (chars : List Char) (words : List (List Char)) :
    (extendFirst chars words).flatten = chars ++ words.flatten := by
  cases words <;> simp [extendFirst]

/-- The words hold what the clusters hold, apart from separators. -/
theorem flatten_wordsOfGlyphs (glyphs : List (Glyph × List Char)) :
    (wordsOfGlyphs glyphs).flatten =
      ((glyphs.filter (·.1 ≠ .separator)).map (·.2)).flatten := by
  induction glyphs with
  | nil => rfl
  | cons entry rest ih =>
      obtain ⟨glyph, cluster⟩ := entry
      rw [wordsOfGlyphs]
      by_cases separates : glyph = .separator
      · simp [separates, ih]
      · by_cases ends : glyph.endsBefore rest <;>
          simp [separates, ends, ih, flatten_extendFirst]

theorem flatten_words (name : List Char) :
    (words name).flatten =
      ((clusters name).filter (Glyph.ofCluster · ≠ .separator)).flatten := by
  rw [words]
  split_ifs with empty
  · simp [empty, clusters]
  · rw [flatten_wordsOfGlyphs, List.filter_map, List.map_map]
    simp [Function.comp_def]

theorem IsAscii.words (ascii : IsAscii name) : ∀ word ∈ words name, IsAscii word := by
  intro word isWord char member
  have inWords : char ∈ (Text.words name).flatten := List.mem_flatten.2 ⟨word, isWord, member⟩
  rw [flatten_words] at inWords
  obtain ⟨cluster, isKept, inCluster⟩ := List.mem_flatten.1 inWords
  have inName : char ∈ (clusters name).flatten :=
    List.mem_flatten.2 ⟨cluster, List.mem_of_mem_filter isKept, inCluster⟩
  rw [flatten_clusters] at inName
  exact ascii char inName

theorem ofCluster_eq_separator {cluster : List Char} (separates : Glyph.ofCluster cluster = .separator) :
    cluster = ['_'] ∨ cluster = ['-'] ∨ cluster = [' '] := by
  by_contra other
  revert separates
  simp only [Glyph.ofCluster, if_neg other]
  split_ifs <;> simp

theorem marksOf_separator {cluster : List Char} (separates : Glyph.ofCluster cluster = .separator) :
    marksOf cluster = [] := by
  rcases ofCluster_eq_separator separates with rfl | rfl | rfl <;> decide

theorem marksOf_flatten_kept (clusters : List (List Char)) :
    marksOf (clusters.filter (Glyph.ofCluster · ≠ .separator)).flatten = marksOf clusters.flatten := by
  induction clusters with
  | nil => rfl
  | cons cluster rest ih =>
      by_cases separates : Glyph.ofCluster cluster = .separator
      · simpa [separates, marksOf_append, marksOf_separator separates] using ih
      · simpa [separates, marksOf_append] using ih

theorem marksOf_words (name : List Char) : marksOf (words name).flatten = marksOf name := by
  rw [flatten_words, marksOf_flatten_kept, flatten_clusters]

theorem marksOf_flatMap {spell : List Char → List Char} {words : List (List Char)}
    (keeps : ∀ word ∈ words, marksOf (spell word) = marksOf word) :
    marksOf (words.flatMap spell) = marksOf words.flatten := by
  induction words with
  | nil => rfl
  | cons word rest ih =>
      have keepsRest := ih fun later member => keeps later (List.mem_cons_of_mem word member)
      rw [List.flatMap_cons, List.flatten_cons, marksOf_append, marksOf_append,
        keeps word List.mem_cons_self, keepsRest]

theorem marksOf_pascalCase (ascii : IsAscii name) : marksOf (pascalCase name) = marksOf name := by
  rw [pascalCase, marksOf_flatMap fun word isWord => marksOf_capitalize (ascii.words word isWord),
    marksOf_words]

theorem marksOf_camelCase (ascii : IsAscii name) : marksOf (camelCase name) = marksOf name := by
  have asciiWords := ascii.words
  rw [← marksOf_words name, camelCase]
  cases isWords : words name with
  | nil => rfl
  | cons first rest =>
      rw [isWords] at asciiWords
      obtain ⟨firstAscii, restAscii⟩ := List.forall_mem_cons.1 asciiWords
      have keepsRest := marksOf_flatMap fun word isWord => marksOf_capitalize (restAscii word isWord)
      rw [List.flatten_cons, marksOf_append, marksOf_append, marksOf_lower firstAscii, keepsRest]

theorem marksOf_lines (words : List (List Char)) :
    marksOf (['_'].intercalate words) = marksOf words.flatten := by
  induction words with
  | nil => rfl
  | cons word rest ih =>
      cases rest with
      | nil => simp
      | cons next rest =>
          have noMark : marksOf ['_'] = [] := by decide
          rw [List.intercalate_cons_cons, List.flatten_cons, marksOf_append, marksOf_append, ih,
            noMark, List.append_nil, marksOf_append]

theorem marksOf_snakeCase (ascii : IsAscii name) : marksOf (snakeCase name) = marksOf name := by
  rw [snakeCase, marksOf_lines, ← List.flatMap_def,
    marksOf_flatMap fun word isWord => marksOf_lower (ascii.words word isWord), marksOf_words]

theorem plain_pascalCase_iff (ascii : IsAscii name) : Plain (pascalCase name) ↔ Plain name := by
  rw [Plain, marksOf_pascalCase ascii, Plain]

end Text

theorem NamingMode.marksOf_propertyName (mode : NamingMode) {name : String}
    (ascii : Text.IsAscii name.toList) :
    Markup.marksOf (mode.propertyName name).toList = Markup.marksOf name.toList := by
  cases mode with
  | legacy => rw [propertyName, String.toList_ofList, Text.marksOf_camelCase ascii]
  | current => rw [propertyName, String.toList_ofList, Text.marksOf_snakeCase ascii]

theorem NamingMode.plain_propertyName_iff {mode : NamingMode} {name : String}
    (ascii : Text.IsAscii name.toList) :
    Markup.Plain (mode.propertyName name).toList ↔ Markup.Plain name.toList := by
  rw [Markup.Plain, mode.marksOf_propertyName ascii, Markup.Plain]

end SchemaHistory
