import SchemaHistory.Ascending

/-!
The order of texts: character by character by code point, a text before those it begins. This is
also the order of their UTF-8 bytes.
-/

namespace SchemaHistory.Text

set_option autoImplicit false

def precedesChars : List Char → List Char → Bool
  | _, [] => false
  | [], _ :: _ => true
  | left :: lefts, right :: rights =>
      left.toNat < right.toNat || left.toNat = right.toNat && precedesChars lefts rights

def precedes (left right : String) : Bool := precedesChars left.toList right.toList

theorem precedesChars_irrefl (chars : List Char) : precedesChars chars chars = false := by
  induction chars with
  | nil => rfl
  | cons char chars ih => simp [precedesChars, ih]

theorem precedes_irrefl (text : String) : precedes text text = false :=
  precedesChars_irrefl text.toList

theorem precedesChars_trans {first second third : List Char}
    (left : precedesChars first second = true) (right : precedesChars second third = true) :
    precedesChars first third = true := by
  induction first generalizing second third with
  | nil =>
      cases third with
      | nil => cases second <;> simp [precedesChars] at right
      | cons => rfl
  | cons char chars ih =>
      cases second with
      | nil => simp [precedesChars] at left
      | cons middle middles =>
          cases third with
          | nil => simp [precedesChars] at right
          | cons last lasts =>
              simp only [precedesChars, Bool.or_eq_true, Bool.and_eq_true, decide_eq_true_eq]
                at left right ⊢
              rcases left with less | ⟨same, below⟩
              · rcases right with less' | ⟨same', _⟩
                · exact Or.inl (Nat.lt_trans less less')
                · exact Or.inl (same' ▸ less)
              · rcases right with less' | ⟨same', below'⟩
                · exact Or.inl (same ▸ less')
                · exact Or.inr ⟨same.trans same', ih below below'⟩

theorem precedesChars_total {left right : List Char} (notBefore : precedesChars left right = false)
    (different : left ≠ right) : precedesChars right left = true := by
  induction left generalizing right with
  | nil =>
      cases right with
      | nil => exact absurd rfl different
      | cons => simp [precedesChars] at notBefore
  | cons char chars ih =>
      cases right with
      | nil => rfl
      | cons other others =>
          simp only [precedesChars, Bool.or_eq_false_iff, Bool.and_eq_false_iff,
            decide_eq_false_iff_not, Bool.or_eq_true, Bool.and_eq_true, decide_eq_true_eq]
            at notBefore ⊢
          obtain ⟨notLess, notBelow⟩ := notBefore
          by_cases same : char.toNat = other.toNat
          · have equal : char = other := Char.toNat_inj.1 same
            rcases notBelow with unequal | later
            · exact absurd same unequal
            · exact Or.inr ⟨same.symm, ih later fun tails => different (by rw [equal, tails])⟩
          · exact Or.inl (by omega)

theorem precedes_isStrict : Ascending.IsStrict precedes where
  trans := precedesChars_trans
  total := by
    intro left right notBefore different
    exact precedesChars_total notBefore fun same => different (String.toList_inj.1 same)

end SchemaHistory.Text
