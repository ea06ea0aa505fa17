/-!
Release versions: three 32-bit components compared from the left, and the two texts in which a
version is written, `1.2.3` for people and keys and `1_2_3` inside names.
-/

namespace SchemaHistory

set_option autoImplicit false

structure Version where
  major : UInt32
  minor : UInt32
  patch : UInt32
  deriving DecidableEq, Inhabited

namespace Version

instance : LT Version :=
  ⟨fun left right =>
    left.major < right.major ∨ left.major = right.major ∧
      (left.minor < right.minor ∨ left.minor = right.minor ∧ left.patch < right.patch)⟩

instance : LE Version := ⟨fun left right => ¬ right < left⟩

theorem lt_def (left right : Version) :
    left < right ↔ left.major < right.major ∨ left.major = right.major ∧
      (left.minor < right.minor ∨ left.minor = right.minor ∧ left.patch < right.patch) := Iff.rfl

theorem le_def (left right : Version) : left ≤ right ↔ ¬ right < left := Iff.rfl

instance (left right : Version) : Decidable (left < right) :=
  decidable_of_iff' _ (lt_def left right)

instance (left right : Version) : Decidable (left ≤ right) :=
  decidable_of_iff' _ (le_def left right)

instance : Max Version := ⟨fun left right => if left ≤ right then right else left⟩

instance : Ord Version :=
  ⟨fun left right => if left < right then .lt else if left = right then .eq else .gt⟩

theorem toNat_lt_def (left right : Version) :
    left < right ↔ left.major.toNat < right.major.toNat ∨
      left.major.toNat = right.major.toNat ∧ (left.minor.toNat < right.minor.toNat ∨
        left.minor.toNat = right.minor.toNat ∧ left.patch.toNat < right.patch.toNat) := by
  simp only [lt_def, UInt32.lt_iff_toNat_lt, UInt32.toNat_inj]

theorem ext_toNat {left right : Version} (major : left.major.toNat = right.major.toNat)
    (minor : left.minor.toNat = right.minor.toNat)
    (patch : left.patch.toNat = right.patch.toNat) : left = right := by
  cases left; cases right
  simp_all [UInt32.toNat_inj]

protected theorem lt_irrefl (version : Version) : ¬ version < version := by
  rw [toNat_lt_def]; omega

protected theorem lt_trans {first second third : Version} (left : first < second)
    (right : second < third) : first < third := by
  rw [toNat_lt_def] at *; omega

protected theorem lt_trichotomy (left right : Version) :
    left < right ∨ left = right ∨ right < left := by
  rw [toNat_lt_def, toNat_lt_def]
  by_cases same : left = right
  · exact Or.inr (Or.inl same)
  · have distinct : ¬ (left.major.toNat = right.major.toNat ∧
        left.minor.toNat = right.minor.toNat ∧ left.patch.toNat = right.patch.toNat) :=
      fun equal => same (ext_toNat equal.1 equal.2.1 equal.2.2)
    omega

/-- Two versions belong to one release when they differ at most in the patch. -/
def sameRelease (left right : Version) : Bool :=
  left.major == right.major && left.minor == right.minor

def dotted (version : Version) : String :=
  version.major.toNat.repr ++ "." ++ version.minor.toNat.repr ++ "." ++ version.patch.toNat.repr

def underscored (version : Version) : String :=
  version.major.toNat.repr ++ "_" ++ version.minor.toNat.repr ++ "_" ++ version.patch.toNat.repr

def sort (versions : List Version) : List Version :=
  versions.mergeSort fun left right => decide (left ≤ right)

end Version

end SchemaHistory
