/-!
Sets of code points as ascending lists of closed ranges, the form in which character properties
are tabled here.
-/

namespace SchemaHistory.Text

set_option autoImplicit false

/-- Membership in an ascending list of closed ranges. The search stops at the first range that
begins after the code point, so a small code point costs one comparison. -/
def inRanges : List (Nat × Nat) → Nat → Bool
  | [], _ => false
  | (first, last) :: rest, code =>
      if code < first then false else code ≤ last || inRanges rest code

end SchemaHistory.Text
