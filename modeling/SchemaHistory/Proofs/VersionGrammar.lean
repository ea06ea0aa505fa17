import Mathlib.Data.List.Induction
import Mathlib.Data.List.Forall2
import Mathlib.Tactic.SplitIfs
import SchemaHistory.Proofs.Trimming
import SchemaHistory.Version.Parser

/-!
The grammar of version texts. A text without the blanks around it is divided at its dots into two or three
numerals, each of them digits after at most one plus sign, with a value of 32 bits. The parser accepts these
texts with these values and no others; of the others it says what is wrong with them first.
-/

namespace SchemaHistory.Version

set_option autoImplicit false

inductive Digits : List Char → Nat → Prop where
  | single {digit : Char} (isDigit : digit.isDigit = true) :
      Digits [digit] (digit.toNat - '0'.toNat)
  | append {digits : List Char} {value : Nat} {digit : Char} (earlier : Digits digits value)
      (isDigit : digit.isDigit = true) :
      Digits (digits ++ [digit]) (10 * value + (digit.toNat - '0'.toNat))

/-- Digits after at most one plus sign, and their value. -/
inductive Numeral : List Char → Nat → Prop where
  | unsigned {digits : List Char} {value : Nat} (isValue : Digits digits value) :
      Numeral digits value
  | signed {digits : List Char} {value : Nat} (isValue : Digits digits value) :
      Numeral ('+' :: digits) value

/-- The parts of a text between its dots. -/
structure Divides (text : List Char) (parts : List (List Char)) : Prop where
  joined : text = ['.'].intercalate parts
  dotless : ∀ part ∈ parts, '.' ∉ part
  notNone : parts ≠ []

/-- The version that a text denotes, or what is wrong with the text. A part that is no numeral, or one of
more than 32 bits, counts only if no part before it does. -/
inductive Denotes (source : List Char) : Except ParseError Version → Prop where
  | empty (trims : Text.Trims source []) : Denotes source (.error .empty)
  | componentCount {text : List Char} {parts : List (List Char)} (trims : Text.Trims source text)
      (notEmpty : text ≠ []) (divides : Divides text parts)
      (miscounted : parts.length ≠ 2 ∧ parts.length ≠ 3) :
      Denotes source (.error (.componentCount (.ofList text)))
  | invalidComponent {text part : List Char} {earlier later : List (List Char)}
      (trims : Text.Trims source text) (divides : Divides text (earlier ++ part :: later))
      (counted : earlier.length + 1 + later.length = 2 ∨ earlier.length + 1 + later.length = 3)
      (valid : ∀ other ∈ earlier, ∃ value ≤ 4294967295, Numeral other value)
      (invalid : ¬∃ value ≤ 4294967295, Numeral part value) :
      Denotes source (.error (.invalidComponent (.ofList text) (.ofList part)))
  | twoParts {text first second : List Char} {major minor : UInt32}
      (trims : Text.Trims source text) (divides : Divides text [first, second])
      (isMajor : Numeral first major.toNat) (isMinor : Numeral second minor.toNat) :
      Denotes source (.ok ⟨major, minor, 0⟩)
  | threeParts {text first second third : List Char} {major minor patch : UInt32}
      (trims : Text.Trims source text) (divides : Divides text [first, second, third])
      (isMajor : Numeral first major.toNat) (isMinor : Numeral second minor.toNat)
      (isPatch : Numeral third patch.toNat) :
      Denotes source (.ok ⟨major, minor, patch⟩)

variable {source text digits part : List Char} {parts : List (List Char)}

theorem digits_iff {value : Nat} :
    Digits digits value ↔
      digits ≠ [] ∧ digits.all Char.isDigit = true ∧ Nat.ofDigitChars 10 digits 0 = value := by
  constructor
  · intro isValue
    induction isValue with
    | single isDigit => simp [isDigit, Nat.ofDigitChars_cons]
    | append earlier isDigit ih =>
        obtain ⟨-, allDigits, sameValue⟩ := ih
        simp [Nat.ofDigitChars_append, Nat.ofDigitChars_cons, sameValue, allDigits, isDigit]
  · -- The value grows at the right end of the digits.
    induction digits using List.reverseRecOn generalizing value with
    | nil => simp
    | append_singleton digits digit ih =>
        rintro ⟨-, allDigits, rfl⟩
        rw [List.all_append, Bool.and_eq_true] at allDigits
        have isDigit : digit.isDigit = true := by simpa using allDigits.2
        by_cases first : digits = []
        · subst first
          simpa [Nat.ofDigitChars_cons] using Digits.single isDigit
        · rw [Nat.ofDigitChars_append, Nat.ofDigitChars_cons, Nat.ofDigitChars_nil]
          exact .append (ih ⟨first, allDigits.1, rfl⟩) isDigit

theorem ofDigits?_eq_some_iff {value : UInt32} :
    ofDigits? digits = some value ↔ Digits digits value.toNat := by
  simp only [ofDigits?, Option.ite_none_right_eq_some, Option.some.injEq, digits_iff]
  constructor
  · rintro ⟨⟨some, allDigits, bounded⟩, rfl⟩
    exact ⟨some, allDigits, (UInt32.toNat_ofNat_of_lt bounded).symm⟩
  · rintro ⟨some, allDigits, sameValue⟩
    rw [sameValue]
    exact ⟨⟨some, allDigits, value.toNat_lt_size⟩, UInt32.ofNat_toNat⟩

theorem numeral_signed_iff {value : Nat} : Numeral ('+' :: digits) value ↔ Digits digits value := by
  constructor
  · intro numeral
    cases numeral with
    | unsigned isValue =>
        have allDigits := (digits_iff.1 isValue).2.1
        simp at allDigits
    | signed isValue => exact isValue
  · exact .signed

theorem numeral_unsigned_iff {value : Nat} (unsigned : part.head? ≠ some '+') :
    Numeral part value ↔ Digits part value := by
  constructor
  · intro numeral
    cases numeral with
    | unsigned isValue => exact isValue
    | signed isValue => exact absurd rfl unsigned
  · exact .unsigned

theorem component?_eq_some_iff {value : UInt32} :
    component? part = some value ↔ Numeral part value.toNat := by
  unfold component?
  split
  · rw [ofDigits?_eq_some_iff, numeral_signed_iff]
  · rename_i unsigned
    rw [ofDigits?_eq_some_iff, numeral_unsigned_iff]
    intro signed
    obtain ⟨rest, rfl⟩ := List.head?_eq_some_iff.1 signed
    exact unsigned rest rfl

theorem exists_component_iff :
    (∃ value, component? part = some value) ↔ ∃ value ≤ 4294967295, Numeral part value := by
  constructor
  · rintro ⟨value, isValue⟩
    exact ⟨value.toNat, Nat.le_of_lt_succ value.toNat_lt, component?_eq_some_iff.1 isValue⟩
  · rintro ⟨value, bounded, numeral⟩
    have fits : value < 2 ^ 32 := Nat.lt_succ_of_le bounded
    refine ⟨.ofNat value, component?_eq_some_iff.2 ?_⟩
    rw [UInt32.toNat_ofNat_of_lt' fits]
    exact numeral

theorem components?_eq_ok_iff {values : List UInt32} :
    components? parts = .ok values ↔
      List.Forall₂ (fun part (value : UInt32) => Numeral part value.toNat) parts values := by
  induction parts generalizing values with
  | nil => cases values <;> simp [components?]
  | cons part parts ih =>
      cases isValue : component? part with
      | none =>
          have invalid : ∀ value : UInt32, ¬Numeral part value.toNat := by
            intro value numeral
            rw [component?_eq_some_iff.2 numeral] at isValue
            cases isValue
          cases values <;> simp [components?, isValue, invalid]
      | some value =>
          have numeral := component?_eq_some_iff.1 isValue
          have only : ∀ other : UInt32, Numeral part other.toNat ↔ value = other := by
            intro other
            rw [← component?_eq_some_iff, isValue, Option.some.injEq]
          cases values with
          | nil => cases read : components? parts <;> simp [components?, isValue, read, Except.map]
          | cons first values =>
              rw [List.forall₂_cons, ← ih, only]
              cases read : components? parts <;> simp [components?, isValue, read, Except.map]

theorem components?_cons_eq_error_iff {first : List Char} :
    components? (first :: parts) = .error part ↔
      component? first = none ∧ first = part ∨
        (∃ value, component? first = some value) ∧ components? parts = .error part := by
  cases isValue : component? first with
  | none => simp [components?, isValue]
  | some value => cases read : components? parts <;> simp [components?, isValue, read, Except.map]

/-- The part that is reported is the first that is no numeral of 32 bits. -/
theorem components?_eq_error_iff :
    components? parts = .error part ↔
      ∃ earlier later, parts = earlier ++ part :: later ∧
        (∀ other ∈ earlier, ∃ value ≤ 4294967295, Numeral other value) ∧
        ¬∃ value ≤ 4294967295, Numeral part value := by
  induction parts with
  | nil => simp [components?]
  | cons first parts ih =>
      rw [components?_cons_eq_error_iff, ih, Option.eq_none_iff_forall_ne_some, ← not_exists,
        exists_component_iff]
      constructor
      · rintro (⟨invalid, rfl⟩ | ⟨valid, earlier, later, rfl, allValid, invalid⟩)
        · exact ⟨[], parts, rfl, by simp, invalid⟩
        · exact ⟨first :: earlier, later, rfl, List.forall_mem_cons.2 ⟨valid, allValid⟩, invalid⟩
      · rintro ⟨earlier, later, split, allValid, invalid⟩
        cases earlier with
        | nil =>
            obtain ⟨rfl, rfl⟩ := List.cons.inj split
            exact Or.inl ⟨invalid, rfl⟩
        | cons other earlier =>
            obtain ⟨rfl, rfl⟩ := List.cons.inj split
            obtain ⟨valid, allValid⟩ := List.forall_mem_cons.1 allValid
            exact Or.inr ⟨valid, earlier, later, rfl, allValid, invalid⟩

theorem not_mem_of_mem_splitOn {separator : Char} (member : part ∈ text.splitOn separator) :
    separator ∉ part := by
  induction text generalizing part with
  | nil =>
      rw [List.splitOn_nil, List.mem_singleton] at member
      rw [member]
      exact List.not_mem_nil
  | cons char rest ih =>
      rw [List.splitOn_cons_eq_if_modifyHead] at member
      split at member
      · rcases List.mem_cons.1 member with rfl | inside
        · exact List.not_mem_nil
        · exact ih inside
      · rename_i different
        cases parts : rest.splitOn separator with
        | nil => exact absurd parts (List.splitOn_ne_nil separator rest)
        | cons first others =>
            rw [parts, List.modifyHead_cons, List.mem_cons] at member
            rcases member with rfl | inside
            · rw [List.mem_cons, not_or]
              refine ⟨fun same => different (by simp [same]), ih ?_⟩
              rw [parts]
              exact List.mem_cons_self
            · apply ih
              rw [parts]
              exact List.mem_cons_of_mem _ inside

theorem divides_splitOn (text : List Char) : Divides text (text.splitOn '.') :=
  ⟨(List.intercalate_splitOn '.').symm, fun _ member => not_mem_of_mem_splitOn member,
    List.splitOn_ne_nil '.' text⟩

theorem Divides.splitOn_eq (divides : Divides text parts) : text.splitOn '.' = parts := by
  rw [divides.joined]
  exact List.splitOn_intercalate '.' divides.dotless divides.notNone

theorem Divides.text_ne_nil (divides : Divides text parts) (several : parts.length ≠ 1) :
    text ≠ [] := by
  rintro rfl
  rw [← divides.splitOn_eq] at several
  exact several rfl

theorem ofText_of_divides (divides : Divides text parts)
    (counted : parts.length = 2 ∨ parts.length = 3) :
    ofText text =
      match components? parts with
      | .error part => .error (.invalidComponent (.ofList text) (.ofList part))
      | .ok values => .ok ⟨values.getD 0 0, values.getD 1 0, values.getD 2 0⟩ := by
  have notEmpty : text ≠ [] := divides.text_ne_nil (by omega)
  have notMiscounted : ¬(parts.length < 2 ∨ 3 < parts.length) := by omega
  rw [ofText, divides.splitOn_eq, if_neg notEmpty]
  exact if_neg notMiscounted

theorem denotes_parse (source : String) : Denotes source.toList (parse source) := by
  have trims := Text.trims_trim source.toList
  unfold parse
  generalize Text.trim source.toList = text at trims ⊢
  by_cases isEmpty : text = []
  · subst isEmpty
    exact .empty trims
  have divides := divides_splitOn text
  by_cases counted : (text.splitOn '.').length = 2 ∨ (text.splitOn '.').length = 3
  · rw [ofText_of_divides divides counted]
    generalize text.splitOn '.' = parts at divides counted ⊢
    cases read : components? parts with
    | error part =>
        obtain ⟨earlier, later, rfl, valid, invalid⟩ := components?_eq_error_iff.1 read
        refine .invalidComponent trims divides ?_ valid invalid
        simp only [List.length_append, List.length_cons] at counted
        omega
    | ok values =>
        match parts, values, components?_eq_ok_iff.1 read, counted with
        | _, _, .cons isMajor (.cons isMinor .nil), _ => exact .twoParts trims divides isMajor isMinor
        | _, _, .cons isMajor (.cons isMinor (.cons isPatch .nil)), _ =>
            exact .threeParts trims divides isMajor isMinor isPatch
  · have miscounted : (text.splitOn '.').length < 2 ∨ 3 < (text.splitOn '.').length := by omega
    rw [ofText, if_neg isEmpty, if_pos miscounted]
    exact .componentCount trims isEmpty divides (not_or.1 counted)

theorem parse_of_denotes {source : String} {outcome : Except ParseError Version}
    (denotes : Denotes source.toList outcome) : parse source = outcome := by
  unfold parse
  cases denotes with
  | empty trims =>
      rw [Text.trim_of_trims trims]
      rfl
  | componentCount trims notEmpty divides miscounted =>
      rw [Text.trim_of_trims trims, ofText, divides.splitOn_eq, if_neg notEmpty, if_pos (by omega)]
  | @invalidComponent text part earlier later trims divides counted valid invalid =>
      have read := components?_eq_error_iff.2 ⟨earlier, later, rfl, valid, invalid⟩
      have countedParts : (earlier ++ part :: later).length = 2 ∨
          (earlier ++ part :: later).length = 3 := by
        simp only [List.length_append, List.length_cons]
        omega
      rw [Text.trim_of_trims trims, ofText_of_divides divides countedParts, read]
  | twoParts trims divides isMajor isMinor =>
      have read := components?_eq_ok_iff.2 (.cons isMajor (.cons isMinor .nil))
      rw [Text.trim_of_trims trims, ofText_of_divides divides (Or.inl rfl), read]
      rfl
  | threeParts trims divides isMajor isMinor isPatch =>
      have read := components?_eq_ok_iff.2 (.cons isMajor (.cons isMinor (.cons isPatch .nil)))
      rw [Text.trim_of_trims trims, ofText_of_divides divides (Or.inr rfl), read]
      rfl

/-- The parser gives every text what it denotes. -/
theorem parse_eq_iff_denotes (source : String) (outcome : Except ParseError Version) :
    parse source = outcome ↔ Denotes source.toList outcome := by
  constructor
  · rintro rfl
    exact denotes_parse source
  · exact parse_of_denotes

example : parse "\u2003+1.4294967295\n" = .ok ⟨1, 4294967295, 0⟩ := rfl

example : parse "1.-0.4294967296" = .error (.invalidComponent "1.-0.4294967296" "-0") := rfl

end SchemaHistory.Version
