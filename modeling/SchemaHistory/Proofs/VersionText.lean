import SchemaHistory.Proofs.Trimming
import SchemaHistory.Version.Parser

/-!
The texts of versions. Components are written in digits, so a text that ends in a version can be cut at
its last separators, from the right: the text before the version and the version itself are both known
from the whole. For the same reason a version is read back from the text in which it is written.
-/

namespace SchemaHistory.Version

set_option autoImplicit false

def charsWith (separator : Char) (version : Version) : List Char :=
  version.major.toNat.repr.toList ++ separator ::
    (version.minor.toNat.repr.toList ++ separator :: version.patch.toNat.repr.toList)

theorem toList_dotted (version : Version) : version.dotted.toList = version.charsWith '.' := by
  simp [dotted, charsWith]

theorem toList_underscored (version : Version) :
    version.underscored.toList = version.charsWith '_' := by
  simp [underscored, charsWith]

theorem isDigit_of_mem_repr {value : Nat} {char : Char} (member : char ∈ value.repr.toList) :
    char.isDigit = true := by
  rw [Nat.toList_repr] at member
  exact Nat.isDigit_of_mem_toDigits (by decide) (by decide) member

theorem not_mem_repr {char : Char} (notDigit : char.isDigit = false) (value : Nat) :
    char ∉ value.repr.toList := by
  intro member
  rw [isDigit_of_mem_repr member] at notDigit
  cases notDigit

theorem mem_charsWith {separator char : Char} {version : Version}
    (member : char ∈ version.charsWith separator) : char = separator ∨ char.isDigit = true := by
  simp only [charsWith, List.mem_append, List.mem_cons] at member
  rcases member with major | isSeparator | minor | isSeparator | patch
  · exact Or.inr (isDigit_of_mem_repr major)
  · exact Or.inl isSeparator
  · exact Or.inr (isDigit_of_mem_repr minor)
  · exact Or.inl isSeparator
  · exact Or.inr (isDigit_of_mem_repr patch)

/-- Texts that are equal are cut at the same place by a separator that has none after it. -/
theorem cut_at_last {separator : Char} {left right ending other : List Char}
    (lastHere : separator ∉ ending) (lastThere : separator ∉ other) :
    left ++ separator :: ending = right ++ separator :: other ↔ left = right ∧ ending = other := by
  constructor
  · intro same
    rcases List.append_eq_append_iff.1 same with ⟨between, rfl, rest⟩ | ⟨between, rfl, rest⟩
    · cases between with
      | nil => simpa using rest
      | cons char between =>
          obtain ⟨-, rfl⟩ := List.cons.inj rest
          exact absurd (by simp) lastHere
    · cases between with
      | nil => simpa [eq_comm] using rest
      | cons char between =>
          obtain ⟨-, rfl⟩ := List.cons.inj rest
          exact absurd (by simp) lastThere
  · intro same
    rw [same.1, same.2]

theorem value_of_digits {value other : Nat} (same : value.repr.toList = other.repr.toList) :
    value = other := by
  have sameValue := congrArg (fun digits => Nat.ofDigitChars 10 digits 0) same
  simpa [Nat.toList_repr] using sameValue

/-- A text that ends in a version after a separator has one stem and one version only. -/
theorem stem_and_version {separator : Char} (notDigit : separator.isDigit = false)
    {stem other : List Char} {left right : Version} :
    stem ++ separator :: left.charsWith separator = other ++ separator :: right.charsWith separator ↔
      stem = other ∧ left = right := by
  have absent := not_mem_repr notDigit
  constructor
  · intro same
    -- The parts are cut off from the right, the patch first.
    have regrouped : ∀ (stem : List Char) (version : Version),
        stem ++ separator :: version.charsWith separator =
          (stem ++ separator :: version.major.toNat.repr.toList ++
            separator :: version.minor.toNat.repr.toList) ++
              separator :: version.patch.toNat.repr.toList := by
      intro stem version
      simp [charsWith]
    rw [regrouped, regrouped, cut_at_last (absent _) (absent _), cut_at_last (absent _) (absent _),
      cut_at_last (absent _) (absent _)] at same
    obtain ⟨⟨⟨sameStem, major⟩, minor⟩, patch⟩ := same
    exact ⟨sameStem,
      ext_toNat (value_of_digits major) (value_of_digits minor) (value_of_digits patch)⟩
  · intro same
    rw [same.1, same.2]

theorem dotted_inj {left right : Version} : left.dotted = right.dotted ↔ left = right := by
  rw [← String.toList_inj, toList_dotted, toList_dotted]
  constructor
  · intro same
    have sameAfterDot : [] ++ '.' :: left.charsWith '.' = [] ++ '.' :: right.charsWith '.' := by
      rw [same]
    exact ((stem_and_version (by decide)).1 sameAfterDot).2
  · intro same
    rw [same]

theorem ofDigits?_repr (value : UInt32) : ofDigits? value.toNat.repr.toList = some value := by
  have notEmpty : value.toNat.repr.toList ≠ [] := by
    rw [Nat.toList_repr]
    exact Nat.toDigits_ne_nil
  have digits : value.toNat.repr.toList.all Char.isDigit = true :=
    List.all_eq_true.2 fun char member => isDigit_of_mem_repr member
  have sameValue : Nat.ofDigitChars 10 value.toNat.repr.toList 0 = value.toNat := by
    rw [Nat.toList_repr, Nat.ofDigitChars_ten_toDigits]
  unfold ofDigits?
  rw [sameValue, if_pos ⟨notEmpty, digits, value.toNat_lt_size⟩, UInt32.ofNat_toNat]

theorem component?_repr (value : UInt32) : component? value.toNat.repr.toList = some value := by
  unfold component?
  split
  · rename_i digits signed
    have notSign := not_mem_repr (by decide : Char.isDigit '+' = false) value.toNat
    rw [signed] at notSign
    exact absurd List.mem_cons_self notSign
  · exact ofDigits?_repr value

theorem splitOn_charsWith_dot (version : Version) :
    (version.charsWith '.').splitOn '.' =
      [version.major.toNat.repr.toList, version.minor.toNat.repr.toList,
        version.patch.toNat.repr.toList] := by
  have noDot := not_mem_repr (by decide : Char.isDigit '.' = false)
  rw [charsWith, List.splitOn_append_cons_self_of_not_mem (noDot _),
    List.splitOn_append_cons_self_of_not_mem (noDot _), List.splitOn_eq_singleton (noDot _)]

theorem isBlank_of_isDigit {char : Char} (digit : char.isDigit = true) :
    Text.isBlank char = false := by
  have range : 48 ≤ char.toNat ∧ char.toNat ≤ 57 := Char.isDigit_iff_toNat.1 digit
  simp only [Text.isBlank, Text.blankRanges, Text.inRanges]
  grind

theorem components?_repr (version : Version) :
    components? [version.major.toNat.repr.toList, version.minor.toNat.repr.toList,
      version.patch.toNat.repr.toList] = .ok [version.major, version.minor, version.patch] := by
  simp only [components?, component?_repr, Except.map]

theorem not_blank_of_mem_dotted {version : Version} {char : Char}
    (member : char ∈ version.dotted.toList) : Text.isBlank char = false := by
  rw [toList_dotted] at member
  rcases mem_charsWith member with rfl | digit
  · decide
  · exact isBlank_of_isDigit digit

theorem ofText_dotted (version : Version) : ofText version.dotted.toList = .ok version := by
  have notEmpty : version.charsWith '.' ≠ [] := by simp [charsWith]
  unfold ofText
  rw [toList_dotted, if_neg notEmpty, splitOn_charsWith_dot, components?_repr]
  rfl

/-- A version is read back from its text with any blanks around it. -/
theorem parse_between_blanks {before after : List Char} (blanksBefore : Text.Blanks before)
    (blanksAfter : Text.Blanks after) (version : Version) :
    parse (.ofList (before ++ version.dotted.toList ++ after)) = .ok version := by
  have bare : ∀ char ∈ version.dotted.toList, Text.isBlank char = false :=
    fun _ => not_blank_of_mem_dotted
  unfold parse
  rw [String.toList_ofList, Text.trim_between blanksBefore blanksAfter bare, ofText_dotted]

theorem parse?_dotted (version : Version) : parse? version.dotted = some version := by
  have bare : parse version.dotted = .ok version := by
    simpa using parse_between_blanks Text.blanks_nil Text.blanks_nil version
  rw [parse?, bare]
  rfl

end SchemaHistory.Version
