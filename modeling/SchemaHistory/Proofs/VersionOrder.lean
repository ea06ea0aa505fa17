import Mathlib.Data.Prod.Lex
import Mathlib.Order.MinMax
import SchemaHistory.Version.Basic

/-!
Versions are linearly ordered, so that all that is known of such orders holds of them.
-/

namespace SchemaHistory.Version

set_option autoImplicit false

protected theorem lt_asymm {left right : Version} (less : left < right) : ¬right < left :=
  fun greater => Version.lt_irrefl left (Version.lt_trans less greater)

instance : LinearOrder Version where
  le_refl version := Version.lt_irrefl version
  le_trans first second third left right := by
    rcases Version.lt_trichotomy second third with less | rfl | greater
    · exact fun back => left (Version.lt_trans less back)
    · exact left
    · exact absurd greater right
  le_antisymm left right notGreater notLess := by
    rcases Version.lt_trichotomy left right with less | equal | greater
    · exact absurd less notLess
    · exact equal
    · exact absurd greater notGreater
  le_total left right := by
    by_cases less : left < right
    · exact Or.inl (Version.lt_asymm less)
    · exact Or.inr less
  lt_iff_le_not_ge left right := by
    constructor
    · exact fun less => ⟨Version.lt_asymm less, fun notLess => notLess less⟩
    · exact fun both => Decidable.not_not.1 both.2
  toDecidableLE := inferInstance
  toDecidableEq := inferInstance
  toDecidableLT := inferInstance
  max_def left right := rfl
  compare_eq_compareOfLessAndEq left right := rfl

/-- The numbers of a version, of which the first that differ decide. -/
def numbers (version : Version) : Nat ×ₗ Nat ×ₗ Nat :=
  toLex (version.major.toNat, toLex (version.minor.toNat, version.patch.toNat))

theorem numbers_lt_iff {left right : Version} : left.numbers < right.numbers ↔ left < right := by
  rw [toNat_lt_def, numbers, numbers, Prod.Lex.toLex_lt_toLex, Prod.Lex.toLex_lt_toLex]

end SchemaHistory.Version
