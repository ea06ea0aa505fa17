import SchemaHistory.Text.Blank

/-!
What trimming leaves of a text: the part between the blanks around it. It is the only part that has
nothing but blanks before and after it and neither begins nor ends with one.
-/

namespace SchemaHistory.Text

set_option autoImplicit false

variable {source text before after : List Char} {char : Char}

def Blanks (text : List Char) : Prop := ∀ char ∈ text, isBlank char = true

instance (text : List Char) : Decidable (Blanks text) :=
  decidable_of_iff (text.all isBlank = true) List.all_eq_true

theorem blanks_nil : Blanks [] := by decide

/-- The text stands between blanks in the source, and has none at its own ends. -/
structure Trims (source text : List Char) : Prop where
  between : ∃ before after, Blanks before ∧ Blanks after ∧ source = before ++ text ++ after
  first : ∀ char ∈ text.head?, isBlank char = false
  last : ∀ char ∈ text.getLast?, isBlank char = false

theorem trimLeft_append (blanks : Blanks before) (text : List Char) :
    trimLeft (before ++ text) = trimLeft text :=
  List.dropWhile_append_of_pos blanks

theorem trimLeft_of_first (first : ∀ char ∈ text.head?, isBlank char = false) :
    trimLeft text = text := by
  cases text with
  | nil => rfl
  | cons char rest => simp [trimLeft, first char rfl]

theorem blanks_before_trimLeft (text : List Char) :
    ∃ before, Blanks before ∧ text = before ++ trimLeft text :=
  ⟨text.takeWhile isBlank, List.all_eq_true.1 List.all_takeWhile,
    List.takeWhile_append_dropWhile.symm⟩

theorem first_of_trimLeft (text : List Char) :
    ∀ char ∈ (trimLeft text).head?, isBlank char = false := by
  intro char isFirst
  have stopped := List.head?_dropWhile_not isBlank text
  rw [trimLeft] at isFirst
  rw [Option.mem_def.1 isFirst] at stopped
  exact stopped

theorem Blanks.reverse (blanks : Blanks text) : Blanks text.reverse :=
  fun char member => blanks char (List.mem_reverse.1 member)

theorem trimRight_append (blanks : Blanks after) (text : List Char) :
    trimRight (text ++ after) = trimRight text := by
  rw [trimRight, List.reverse_append, trimLeft_append blanks.reverse, trimRight]

theorem trimRight_of_last (last : ∀ char ∈ text.getLast?, isBlank char = false) :
    trimRight text = text := by
  rw [trimRight, trimLeft_of_first, List.reverse_reverse]
  rw [List.head?_reverse]
  exact last

theorem blanks_after_trimRight (text : List Char) :
    ∃ after, Blanks after ∧ text = trimRight text ++ after := by
  obtain ⟨before, blanks, split⟩ := blanks_before_trimLeft text.reverse
  refine ⟨before.reverse, blanks.reverse, ?_⟩
  rw [trimRight, ← List.reverse_append, ← split, List.reverse_reverse]

theorem last_of_trimRight (text : List Char) :
    ∀ char ∈ (trimRight text).getLast?, isBlank char = false := by
  rw [trimRight, List.getLast?_reverse]
  exact first_of_trimLeft text.reverse

theorem trims_trim (source : List Char) : Trims source (trim source) := by
  obtain ⟨before, blanksBefore, splitBefore⟩ := blanks_before_trimLeft source
  obtain ⟨after, blanksAfter, splitAfter⟩ := blanks_after_trimRight (trimLeft source)
  refine ⟨⟨before, after, blanksBefore, blanksAfter, ?_⟩, ?_, last_of_trimRight _⟩
  · rw [trim, List.append_assoc, ← splitAfter]
    exact splitBefore
  · intro char isFirst
    apply first_of_trimLeft source
    rw [splitAfter, List.head?_append, Option.mem_def, ← trim, Option.mem_def.1 isFirst, Option.some_or]

theorem trim_of_trims (trims : Trims source text) : trim source = text := by
  obtain ⟨⟨before, after, blanksBefore, blanksAfter, rfl⟩, first, last⟩ := trims
  rw [trim, List.append_assoc, trimLeft_append blanksBefore]
  cases text with
  | nil =>
      have nothing : trimLeft after = [] := by
        simpa [trimLeft] using trimLeft_append blanksAfter []
      rw [List.nil_append, nothing]
      rfl
  | cons char rest =>
      have isFirst : ∀ other ∈ (char :: rest ++ after).head?, isBlank other = false := first
      rw [trimLeft_of_first isFirst, trimRight_append blanksAfter, trimRight_of_last last]

theorem trim_between (blanksBefore : Blanks before) (blanksAfter : Blanks after)
    (bare : ∀ char ∈ text, isBlank char = false) : trim (before ++ text ++ after) = text := by
  refine trim_of_trims ⟨⟨before, after, blanksBefore, blanksAfter, rfl⟩, ?_, ?_⟩
  · exact fun char isFirst => bare char (List.mem_of_mem_head? isFirst)
  · exact fun char isLast => bare char (List.mem_of_mem_getLast? isLast)

/-- Only blanks are lost. -/
theorem mem_trim_iff (visible : isBlank char = false) : char ∈ trim source ↔ char ∈ source := by
  obtain ⟨⟨before, after, blanksBefore, blanksAfter, split⟩, -, -⟩ := trims_trim source
  have notBefore : char ∉ before := by
    intro member
    rw [blanksBefore char member] at visible
    cases visible
  have notAfter : char ∉ after := by
    intro member
    rw [blanksAfter char member] at visible
    cases visible
  have within : char ∈ before ++ trim source ++ after ↔ char ∈ trim source := by
    simp [notBefore, notAfter]
  rw [← split] at within
  exact within.symm

end SchemaHistory.Text
