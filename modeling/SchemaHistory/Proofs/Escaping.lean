import Mathlib.Data.List.Infix
import SchemaHistory.Markup.Escape

/-!
Texts that can stand between double quotes, and what is read from them. A text is safe when it has no
character that ends the value or begins a tag, and every ampersand begins one of the four entities.
Escaped text is safe and gives the text back, and it is all the safe text there is without the end of a
tag; a text that stands for itself is safe only when it is plain.
-/

namespace SchemaHistory.Markup

set_option autoImplicit false

def entities : List (List Char) :=
  ["&amp;".toList, "&lt;".toList, "&gt;".toList, "&quot;".toList]

structure Safe (text : List Char) : Prop where
  noTag : '<' ∉ text
  noQuote : '"' ∉ text
  onlyEntities : ∀ rest, '&' :: rest <:+ text → ∃ entity ∈ entities, entity <+: '&' :: rest

/-- The characters that cannot stand for themselves between double quotes. -/
def marks : List Char := ['<', '"', '&']

def marksOf (text : List Char) : List Char := text.filter (· ∈ marks)

/-- No character of the text is a mark. -/
def Plain (text : List Char) : Prop := marksOf text = []

instance (text : List Char) : Decidable (Plain text) :=
  inferInstanceAs (Decidable (marksOf text = []))

variable {text left right : List Char}

theorem marksOf_append (left right : List Char) :
    marksOf (left ++ right) = marksOf left ++ marksOf right :=
  List.filter_append left right

theorem plain_append : Plain (left ++ right) ↔ Plain left ∧ Plain right := by
  rw [Plain, marksOf_append, List.append_eq_nil_iff, Plain, Plain]

theorem plain_iff_forall : Plain text ↔ ∀ char ∈ text, char ∉ marks := by
  simp [Plain, marksOf]

theorem Plain.not_mem {mark : Char} (plain : Plain text) (isMark : mark ∈ marks) : mark ∉ text :=
  fun member => plain_iff_forall.1 plain mark member isMark

theorem Safe.nil : Safe [] := by
  refine ⟨by simp, by simp, ?_⟩
  intro rest ampersand
  simp at ampersand

theorem Safe.of_suffix {rest : List Char} (safe : Safe text) (isSuffix : rest <:+ text) :
    Safe rest := by
  refine ⟨fun tag => safe.noTag (isSuffix.mem tag), fun quote => safe.noQuote (isSuffix.mem quote), ?_⟩
  intro later ampersand
  exact safe.onlyEntities later (ampersand.trans isSuffix)

theorem Safe.tail {char : Char} {rest : List Char} (safe : Safe (char :: rest)) : Safe rest :=
  safe.of_suffix (List.suffix_cons char rest)

theorem Safe.append (leftSafe : Safe left) (rightSafe : Safe right) : Safe (left ++ right) := by
  refine ⟨by simp [leftSafe.noTag, rightSafe.noTag], by simp [leftSafe.noQuote, rightSafe.noQuote], ?_⟩
  intro rest ampersand
  induction left with
  | nil => exact rightSafe.onlyEntities rest ampersand
  | cons char chars ih =>
      rcases List.suffix_cons_iff.1 ampersand with same | later
      · -- The entity that begins here ends before the seam.
        obtain ⟨rfl, rfl⟩ := List.cons.inj same
        obtain ⟨entity, isEntity, begins⟩ := leftSafe.onlyEntities chars List.suffix_rfl
        exact ⟨entity, isEntity, begins.trans (List.prefix_append ('&' :: chars) right)⟩
      · exact ih leftSafe.tail later

theorem Plain.safe (plain : Plain text) : Safe text := by
  refine ⟨plain.not_mem (by decide), plain.not_mem (by decide), ?_⟩
  intro rest ampersand
  exact absurd (ampersand.mem List.mem_cons_self) (plain.not_mem (by decide))

theorem safe_of_mem_entities {entity : List Char} (isEntity : entity ∈ entities) : Safe entity := by
  have marksWithin : ∀ entity ∈ entities, '<' ∉ entity ∧ '"' ∉ entity ∧ '&' ∉ entity.tail := by decide
  obtain ⟨noTag, noQuote, noFurther⟩ := marksWithin entity isEntity
  refine ⟨noTag, noQuote, ?_⟩
  intro rest ampersand
  cases entity with
  | nil => simp at ampersand
  | cons char chars =>
      rcases List.suffix_cons_iff.1 ampersand with same | later
      · exact ⟨char :: chars, isEntity, same ▸ List.prefix_rfl⟩
      · exact absurd (later.mem List.mem_cons_self) noFurther

theorem escapeChar_cases (char : Char) :
    escapeChar char ∈ entities ∨ escapeChar char = [char] ∧ char ∉ marks := by
  unfold escapeChar
  split
  case h_5 =>
    rename_i notAmpersand notLess notGreater notQuote
    refine Or.inr ⟨rfl, ?_⟩
    simp only [marks, List.mem_cons, List.not_mem_nil, or_false, not_or]
    exact ⟨notLess, notQuote, notAmpersand⟩
  all_goals exact Or.inl (by decide)

theorem safe_escapeChar (char : Char) : Safe (escapeChar char) := by
  rcases escapeChar_cases char with isEntity | ⟨same, unmarked⟩
  · exact safe_of_mem_entities isEntity
  · rw [same]
    apply Plain.safe
    simpa [plain_iff_forall] using unmarked

theorem safe_escapeChars (text : List Char) : Safe (escapeChars text) := by
  induction text with
  | nil => exact Safe.nil
  | cons char rest ih => exact (safe_escapeChar char).append ih

theorem unescapeChars_cons_of_ne {char : Char} (noAmpersand : char ≠ '&') (rest : List Char) :
    unescapeChars (char :: rest) = char :: unescapeChars rest := by
  simp [unescapeChars, noAmpersand]

theorem unescapeChars_escapeChar (char : Char) (rest : List Char) :
    unescapeChars (escapeChar char ++ rest) = char :: unescapeChars rest := by
  unfold escapeChar
  split
  case h_5 =>
    rename_i notAmpersand notLess notGreater notQuote
    exact unescapeChars_cons_of_ne notAmpersand rest
  all_goals simp [unescapeChars]

/-- Reading back in one pass gives the text again, whatever entities it seemed to have before. -/
theorem unescapeChars_escapeChars (text : List Char) : unescapeChars (escapeChars text) = text := by
  induction text with
  | nil => rfl
  | cons char rest ih =>
      rw [escapeChars_cons, unescapeChars_escapeChar, ih]

theorem unescapeChars_of_plain (plain : Plain text) : unescapeChars text = text := by
  have noAmpersand : '&' ∉ text := plain.not_mem (by decide)
  clear plain
  induction text with
  | nil => rfl
  | cons char rest ih =>
      rw [List.mem_cons, not_or] at noAmpersand
      rw [unescapeChars_cons_of_ne (Ne.symm noAmpersand.1), ih noAmpersand.2]

theorem length_unescapeChars_le (text : List Char) : (unescapeChars text).length ≤ text.length := by
  fun_induction unescapeChars text <;> simp_all <;> omega

theorem not_ampersand_of_unread {char : Char} {rest : List Char} (safe : Safe (char :: rest))
    (notAmp : ∀ later, char = '&' → rest = 'a' :: 'm' :: 'p' :: ';' :: later → False)
    (notLt : ∀ later, char = '&' → rest = 'l' :: 't' :: ';' :: later → False)
    (notGt : ∀ later, char = '&' → rest = 'g' :: 't' :: ';' :: later → False)
    (notQuot : ∀ later, char = '&' → rest = 'q' :: 'u' :: 'o' :: 't' :: ';' :: later → False) :
    char ≠ '&' := by
  rintro rfl
  obtain ⟨entity, isEntity, later, begins⟩ := safe.onlyEntities rest List.suffix_rfl
  simp only [entities, List.mem_cons, List.not_mem_nil, or_false] at isEntity
  rcases isEntity with rfl | rfl | rfl | rfl
  · exact notAmp later rfl (List.cons.inj begins.symm).2
  · exact notLt later rfl (List.cons.inj begins.symm).2
  · exact notGt later rfl (List.cons.inj begins.symm).2
  · exact notQuot later rfl (List.cons.inj begins.symm).2

theorem no_ampersand_of_length (safe : Safe text)
    (sameLength : (unescapeChars text).length = text.length) : '&' ∉ text := by
  fun_induction unescapeChars text with
  | case1 rest ih | case2 rest ih | case3 rest ih | case4 rest ih =>
      have shorter := length_unescapeChars_le rest
      simp only [List.length_cons] at sameLength
      omega
  | case5 char rest notAmp notLt notGt notQuot ih =>
      have noneLater := ih safe.tail (by simpa using sameLength)
      rw [List.mem_cons, not_or]
      exact ⟨Ne.symm (not_ampersand_of_unread safe notAmp notLt notGt notQuot), noneLater⟩
  | case6 => simp

theorem safe_and_same_iff_plain : Safe text ∧ unescapeChars text = text ↔ Plain text := by
  constructor
  · intro holds
    obtain ⟨safe, same⟩ := holds
    have noAmpersand := no_ampersand_of_length safe (congrArg List.length same)
    rw [plain_iff_forall]
    intro char member isMark
    simp only [marks, List.mem_cons, List.not_mem_nil, or_false] at isMark
    rcases isMark with rfl | rfl | rfl
    · exact safe.noTag member
    · exact safe.noQuote member
    · exact noAmpersand member
  · intro plain
    exact ⟨plain.safe, unescapeChars_of_plain plain⟩

/-- A safe text that has no character that ends a tag either. -/
structure Escaped (text : List Char) : Prop extends Safe text where
  noTagEnd : '>' ∉ text

theorem Escaped.of_suffix {rest : List Char} (escaped : Escaped text) (isSuffix : rest <:+ text) :
    Escaped rest :=
  ⟨escaped.toSafe.of_suffix isSuffix, fun tagEnd => escaped.noTagEnd (isSuffix.mem tagEnd)⟩

theorem escaped_escapeChars (text : List Char) : Escaped (escapeChars text) := by
  refine ⟨safe_escapeChars text, ?_⟩
  intro tagEnd
  obtain ⟨char, -, inside⟩ := List.mem_flatMap.1 tagEnd
  unfold escapeChar at inside
  split at inside
  case h_5 =>
    rename_i notAmpersand notLess notGreater notQuote
    exact notGreater (List.mem_singleton.1 inside).symm
  all_goals exact absurd inside (by decide)

theorem escapeChar_of_other {char : Char} (notAmpersand : char ≠ '&') (notLess : char ≠ '<')
    (notGreater : char ≠ '>') (notQuote : char ≠ '"') : escapeChar char = [char] := by
  unfold escapeChar
  split
  case h_5 => rfl
  all_goals contradiction

-- The induction is that of the reader: what it reads from an entity is escaped to that entity.
theorem escapeChars_unescapeChars (escaped : Escaped text) :
    escapeChars (unescapeChars text) = text := by
  fun_induction unescapeChars text with
  | case1 rest ih =>
      rw [escapeChars_cons, ih (escaped.of_suffix ⟨"&amp;".toList, rfl⟩)]
      rfl
  | case2 rest ih =>
      rw [escapeChars_cons, ih (escaped.of_suffix ⟨"&lt;".toList, rfl⟩)]
      rfl
  | case3 rest ih =>
      rw [escapeChars_cons, ih (escaped.of_suffix ⟨"&gt;".toList, rfl⟩)]
      rfl
  | case4 rest ih =>
      rw [escapeChars_cons, ih (escaped.of_suffix ⟨"&quot;".toList, rfl⟩)]
      rfl
  | case5 char rest notAmp notLt notGt notQuot ih =>
      have notAmpersand : char ≠ '&' :=
        not_ampersand_of_unread escaped.toSafe notAmp notLt notGt notQuot
      have notLess : char ≠ '<' := (List.ne_of_not_mem_cons escaped.noTag).symm
      have notGreater : char ≠ '>' := (List.ne_of_not_mem_cons escaped.noTagEnd).symm
      have notQuote : char ≠ '"' := (List.ne_of_not_mem_cons escaped.noQuote).symm
      rw [escapeChars_cons, escapeChar_of_other notAmpersand notLess notGreater notQuote,
        ih (escaped.of_suffix (List.suffix_cons char rest))]
      rfl
  | case6 => rfl

/-- Escaping gives a text that is safe between quotes and has no end of a tag, from which the one text
that was escaped is read back in one pass. It goes character by character, and it gives all texts of this
kind: each of them is what comes of escaping the text that is read from it. -/
theorem escape_lossless (text : String) :
    Escaped (escape text).toList ∧ unescape (escape text) = text ∧ Function.Injective escape ∧
      (∀ left right, escape (left ++ right) = escape left ++ escape right) ∧
      ∀ written : String, Escaped written.toList ↔ escape (unescape written) = written := by
  have readBack : ∀ text : String, unescape (escape text) = text := by
    intro text
    rw [unescape, escape, String.toList_ofList, unescapeChars_escapeChars, String.ofList_toList]
  refine ⟨?_, readBack text, Function.LeftInverse.injective readBack, ?_, ?_⟩
  · rw [escape, String.toList_ofList]
    exact escaped_escapeChars text.toList
  · intro left right
    rw [escape, String.toList_append, escapeChars_append, String.ofList_append, ← escape, ← escape]
  · intro written
    constructor
    · intro escaped
      rw [escape, unescape, String.toList_ofList, escapeChars_unescapeChars escaped,
        String.ofList_toList]
    · intro rewritten
      rw [← rewritten, escape, String.toList_ofList]
      exact escaped_escapeChars _

-- An entity that the text has already is kept as the characters it is made of.
example : escape "&lt;b>" = "&amp;lt;b&gt;" := rfl

end SchemaHistory.Markup
